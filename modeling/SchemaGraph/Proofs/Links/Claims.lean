import Mathlib.Data.List.Basic
import SchemaGraph.Graph.Sealed
import SchemaGraph.Proofs.Cycle.BackEdges
import SchemaGraph.Proofs.Reports

/-!
# Claims of sum types

A sum type claims the schemas that its members name, unless these cannot be found. Each of them gets
it as its parent when the sum type is built (`SumType.parent?_build`), and a conflict is reported
for those that have another one at this time (`SumType.conflict_build_iff`).
-/

namespace SchemaGraph

/-- What the first item gives comes before what the others give. -/
theorem filterMap_cons_eq_append {α β : Type} (part? : α → Option β) (item : α) (rest : List α) :
    (item :: rest).filterMap part? = (part? item).toList ++ rest.filterMap part? := by
  simp only [List.filterMap_eq_flatMap_toList, List.flatMap_cons]

/-- The schema that a member claims for its sum type: the one that it names, if it can be found. -/
def SchemaUse.claimed? (table : Table) (member : SchemaUse) : Option String :=
  (SchemaUse.target? member).bind fun reference =>
    let resolved := (table.resolve? reference).toOption.getD .unknown
    if resolved.isUnknown then none else some resolved.name

/-- The schemas that an entry claims, if it is a sum type. -/
def Schema.claimed (table : Table) : Schema → List String
  | .composition parts =>
      if parts.isSum then parts.members.filterMap (SchemaUse.claimed? table) else []
  | _ => []

/-- The sum type `parent` has a member that names the schema `child`, which is no stand-in for one
that cannot be found. -/
def Table.Claims (table : Table) (parent child : String) : Prop :=
  ∃ parts, table.get? parent = some (.composition parts) ∧ parts.isSum ∧
    ∃ member ∈ parts.members, ∃ reference schema, SchemaUse.Names member reference ∧
      table.LeadsTo reference child schema ∧ schema ≠ .unknown

/-- The report says that the schema is an alternative of two sum types. -/
def Report.ConflictAt (child : String) (report : Report) : Prop :=
  report.subject = some child ∧ report.finding.kind = .sealedParentConflict

namespace Reported

variable {α β : Type} {child : String}

/-- Some report says that the schema is an alternative of two sum types. -/
def Conflict (result : Reported α) (child : String) : Prop :=
  ∃ report ∈ result.reports, report.ConflictAt child

@[simp]
theorem not_conflict_pure (value : α) : ¬ (pure value : Reported α).Conflict child :=
  fun ⟨_, hreport, _⟩ => nomatch hreport

@[simp]
theorem conflict_bind_iff {first : Reported α} {next : α → Reported β} :
    (first >>= next).Conflict child ↔ first.Conflict child ∨ (next first.value).Conflict child := by
  simp only [Conflict, reports_bind, List.mem_append, or_and_right, exists_or]

@[simp]
theorem conflict_map_iff {f : α → β} {result : Reported α} :
    (f <$> result).Conflict child ↔ result.Conflict child := by
  rw [Conflict, reports_map, Conflict]

@[simp]
theorem conflict_note_iff {subject : Option String} {finding : Finding} :
    (note subject finding).Conflict child ↔ Report.ConflictAt child ⟨subject, finding⟩ := by
  simp [Conflict]

/-- Where all reports are of other kinds there is no conflict. -/
theorem Every.not_conflict {result : Reported α}
    (h : result.Every fun report => report.finding.kind ≠ .sealedParentConflict) :
    ¬ result.Conflict child :=
  fun ⟨report, hreport, _, hkind⟩ => h report hreport hkind

end Reported

/-- A log of reports holds a conflict about a schema when one was reported. -/
theorem Log.conflict_record_iff {α : Type} {result : Reported α} {child : String} :
    (∃ diagnostic ∈ (Log.empty.record result.reports).ofKind .sealedParentConflict,
      diagnostic.subject = some child) ↔ result.Conflict child := by
  simp only [ofKind, List.mem_filter, decide_eq_true_eq, mem_record]
  constructor
  · rintro ⟨_, ⟨hnew | ⟨report, hreport, rfl⟩, hkind⟩, hsubject⟩
    · cases hnew
    · exact ⟨report, hreport, hsubject, hkind⟩
  · rintro ⟨report, hreport, hsubject, hkind⟩
    exact ⟨report.diagnostic, ⟨.inr ⟨report, hreport, rfl⟩, hkind⟩, hsubject⟩

/-- What resolution reports is about references. -/
theorem Table.every_resolve {table : Table} {subject : Option String} {reference : String} :
    (table.resolve subject reference).Every fun report =>
      report.finding.kind = .danglingReference ∨ report.finding.kind = .referenceLoop := by
  unfold resolve
  cases table.resolve? reference with
  | ok resolved => exact .pure _
  | error failure =>
      refine .bind (.note ?_) (.pure _)
      cases failure <;> simp [ResolutionFailure.finding, Finding.kind]

/-- What resolution reports is not about parents. -/
theorem Table.not_conflict_resolve {table : Table} {subject : Option String} {reference : String}
    {child : String} : ¬ (table.resolve subject reference).Conflict child :=
  Reported.Every.not_conflict (every_resolve.mono fun _ h => by rcases h with h | h <;> simp [h])

/-- A use has a target exactly when it names one. -/
theorem SchemaUse.target?_eq_some_iff {use : SchemaUse} {reference : String} :
    use.target? = some reference ↔ use.Names reference := by
  constructor
  · intro h
    unfold target? at h
    split at h <;> cases h
    · exact .reference reference
    · exact .inlineAlias reference
  · rintro (_ | _) <;> rfl

/-- An entry is a stand-in when its schema is. -/
theorem Resolved.isUnknown_iff {resolved : Resolved} :
    resolved.isUnknown ↔ resolved.schema = .unknown :=
  Schema.isUnknown_iff

/-- A member claims the entry that it names, unless this is a stand-in. -/
theorem SchemaUse.claimed?_eq_some_iff {table : Table} {member : SchemaUse} {child : String} :
    member.claimed? table = some child ↔ ∃ reference schema, member.Names reference ∧
      table.LeadsTo reference child schema ∧ schema ≠ .unknown := by
  simp only [claimed?, Option.bind_eq_some_iff, target?_eq_some_iff, Option.ite_none_left_eq_some,
    Option.some.injEq, Resolved.isUnknown_iff]
  constructor
  · rintro ⟨reference, hnames, hknown, rfl⟩
    cases hresolve : table.resolve? reference with
    | error failure => exact absurd (by rw [hresolve]; rfl) hknown
    | ok resolved =>
        rw [hresolve] at hknown
        exact ⟨reference, resolved.schema, hnames, Table.resolve?_eq_ok_iff.1 hresolve, hknown⟩
  · rintro ⟨reference, schema, hnames, hleads, hknown⟩
    refine ⟨reference, hnames, ?_⟩
    rw [hleads.resolve?_eq]
    exact ⟨hknown, rfl⟩

namespace Table

variable {table : Table} {parent child : String}

/-- A sum type claims what its members do. -/
theorem claims_iff : table.Claims parent child ↔
    ∃ schema, table.get? parent = some schema ∧ child ∈ Schema.claimed table schema := by
  constructor
  · rintro ⟨parts, hget, hsum, member, hmember, hnamed⟩
    refine ⟨_, hget, ?_⟩
    rw [Schema.claimed, if_pos hsum]
    exact List.mem_filterMap.2 ⟨member, hmember, SchemaUse.claimed?_eq_some_iff.2 hnamed⟩
  · rintro ⟨schema, hget, hclaimed⟩
    unfold Schema.claimed at hclaimed
    split at hclaimed
    · split at hclaimed
      · next hsum =>
          obtain ⟨member, hmember, hnamed⟩ := List.mem_filterMap.1 hclaimed
          exact ⟨_, hget, hsum, member, hmember, SchemaUse.claimed?_eq_some_iff.1 hnamed⟩
      · cases hclaimed
    · cases hclaimed

instance (table : Table) (parent child : String) : Decidable (table.Claims parent child) :=
  decidable_of_iff (∃ schema ∈ table.get? parent, child ∈ Schema.claimed table schema)
    claims_iff.symm

/-- What claims a schema is an entry. -/
theorem Claims.mem_names (h : table.Claims parent child) : parent ∈ table.names := by
  obtain ⟨_, hget, _⟩ := h
  exact mem_names_of_get? hget

/-- The claims of a table depend only on what is found under the names. -/
theorem claims_congr {other : Table} (hsame : table.get? = other.get?) :
    table.Claims = other.Claims := by
  funext parent child
  unfold Claims
  rw [hsame, leadsTo_congr hsame]

end Table

namespace Registry

variable {registry : Registry} {parent child : String}

/-- Whatever is reported, the parent is entered for the registered schema. -/
theorem value_register (registry : Registry) (child parent : String) :
    (registry.register child parent).value = ⟨Keyed.put registry.parents child parent⟩ := by
  unfold register
  cases registry.parent? child with
  | none => rfl
  | some previous =>
      dsimp only
      split <;> rfl

/-- Registering a schema reports about its parents only. -/
theorem every_register {registry : Registry} {child parent : String} :
    (registry.register child parent).Every fun report =>
      report.finding.kind = .sealedParentConflict := by
  unfold register
  cases registry.parent? child with
  | none => exact .pure _
  | some previous =>
      dsimp only
      split
      · exact .bind (.note rfl) (.pure _)
      · exact .pure _

/-- The schema has a parent other than the given one. -/
def HasOther (registry : Registry) (child parent : String) : Prop :=
  ∃ previous, registry.parent? child = some previous ∧ previous ≠ parent

/-- A conflict is reported for the registered schema when it has another parent. -/
theorem conflict_register_iff {other : String} :
    (registry.register other parent).Conflict child ↔
      child = other ∧ registry.HasOther child parent := by
  unfold register HasOther
  cases hprevious : registry.parent? other with
  | none =>
      refine iff_of_false (Reported.not_conflict_pure _) ?_
      rintro ⟨rfl, previous, hget, _⟩
      cases hprevious.symm.trans hget
  | some previous =>
      dsimp only
      split
      · next hother =>
          simp only [Reported.conflict_bind_iff, Reported.conflict_note_iff,
            Reported.not_conflict_pure, or_false]
          constructor
          · rintro ⟨⟨⟩, _⟩
            exact ⟨rfl, previous, hprevious, hother⟩
          · rintro ⟨rfl, _⟩
            exact ⟨rfl, rfl⟩
      · next hsame =>
          refine iff_of_false (Reported.not_conflict_pure _) ?_
          rintro ⟨rfl, found, hget, hother⟩
          cases hprevious.symm.trans hget
          exact hsame hother

end Registry

namespace SumType

variable {table : Table} {namer : Namer} {parent child : String} {kind : CompositionKind}

/-- The schema that a member claims is entered with the parent. -/
theorem parents_classify (position : Nat) (member : SchemaUse) (registry : Registry) :
    (classify table namer parent kind position member registry).value.2.parents =
      (member.claimed? table).toList.foldl (fun entries child => Keyed.put entries child parent)
        registry.parents := by
  unfold classify SchemaUse.claimed?
  cases SchemaUse.target? member with
  | some reference =>
      simp only [Reported.value_bind, Table.value_resolve, Option.bind_some]
      split
      · rfl
      · rw [Reported.value_bind, Registry.value_register]
        rfl
  | none =>
      cases Use.schema? member with
      | none => rfl
      | some schema => cases schema <;> rfl

/-- The schema that a member claims gets the parent, and the others keep theirs. -/
theorem parent?_classify {position : Nat} {member : SchemaUse} {registry : Registry} :
    (classify table namer parent kind position member registry).value.2.parent? child =
      if member.claimed? table = some child then some parent else registry.parent? child := by
  rw [Registry.parent?, parents_classify]
  cases member.claimed? table with
  | none => rfl
  | some claimed =>
      simp only [Option.some_inj, eq_comm (a := claimed)]
      exact Keyed.get?_put ..

/-- Classifying a member reports a conflict for the schema that it claims, when this has another
parent. -/
theorem conflict_classify_iff {position : Nat} {member : SchemaUse} {registry : Registry} :
    (classify table namer parent kind position member registry).Conflict child ↔
      member.claimed? table = some child ∧ registry.HasOther child parent := by
  unfold classify SchemaUse.claimed?
  cases SchemaUse.target? member with
  | some reference =>
      simp only [Reported.conflict_bind_iff, Table.not_conflict_resolve, Table.value_resolve,
        false_or, Option.bind_some]
      split
      · simp
      · simp [Registry.conflict_register_iff, eq_comm]
  | none =>
      cases Use.schema? member with
      | none => simp [Report.ConflictAt, Finding.kind]
      | some schema => cases schema <;> simp [Report.ConflictAt, Finding.kind]

/-- The schemas that members claim are entered with the parent, one after the other. -/
theorem parents_classifyAll (position : Nat) (members : List SchemaUse) (registry : Registry) :
    (classifyAll table namer parent kind position members registry).value.2.parents =
      (members.filterMap (SchemaUse.claimed? table)).foldl
        (fun entries child => Keyed.put entries child parent) registry.parents := by
  induction members generalizing position registry with
  | nil => rfl
  | cons member rest ih =>
      simp only [classifyAll, Reported.value_bind, Reported.value_pure]
      rw [ih, parents_classify, filterMap_cons_eq_append, List.foldl_append]

/-- The schemas that members claim get the parent, and the others keep theirs. -/
theorem parent?_classifyAll {position : Nat} {members : List SchemaUse} {registry : Registry} :
    (classifyAll table namer parent kind position members registry).value.2.parent? child =
      if child ∈ members.filterMap (SchemaUse.claimed? table) then some parent
      else registry.parent? child := by
  induction members generalizing position registry with
  | nil => rfl
  | cons member rest ih =>
      simp only [classifyAll, Reported.value_bind, Reported.value_pure, ih, parent?_classify,
        filterMap_cons_eq_append, List.mem_append, Option.mem_toList]
      by_cases hclaimed : member.claimed? table = some child <;> simp [hclaimed]

/-- Classifying members reports a conflict for a schema that they claim, when this had another
parent before. -/
theorem conflict_classifyAll_iff {position : Nat} {members : List SchemaUse}
    {registry : Registry} :
    (classifyAll table namer parent kind position members registry).Conflict child ↔
      child ∈ members.filterMap (SchemaUse.claimed? table) ∧ registry.HasOther child parent := by
  induction members generalizing position registry with
  | nil => simp [classifyAll]
  | cons member rest ih =>
      simp only [classifyAll, Reported.conflict_bind_iff, Reported.not_conflict_pure, or_false, ih,
        conflict_classify_iff, Registry.HasOther, parent?_classify,
        filterMap_cons_eq_append, List.mem_append, Option.mem_toList]
      -- A member that claims the schema leaves it with the parent at hand, and no other conflict.
      by_cases hclaimed : member.claimed? table = some child <;> simp [hclaimed]

/-- What is reported for a tag is about its mapping. -/
theorem every_tagOf {parts : Composition} {alternatives : List Alternative} :
    (tagOf table namer parent parts alternatives).Every fun report =>
      report.finding.kind = .discriminatorMapping := by
  have hmapped : ∀ entries, (mappedTargets table namer parent entries).Every fun report =>
      report.finding.kind = .discriminatorMapping := by
    intro entries
    induction entries with
    | nil => exact .pure _
    | cons entry rest ih =>
        unfold mappedTargets
        split
        · exact .bind ih (.pure _)
        · exact .bind (.note rfl) ih
  unfold tagOf
  split
  · dsimp only
    split
    · exact .pure _
    · split
      · exact .pure _
      · exact .bind (hmapped _) (.pure _)
  · exact .pure _

/-- What is reported for a tag is not about parents. -/
theorem not_conflict_tagOf {parts : Composition} {alternatives : List Alternative} :
    ¬ (tagOf table namer parent parts alternatives).Conflict child :=
  Reported.Every.not_conflict (every_tagOf.mono fun _ h => by simp [h])

/-- The schemas that a sum type claims get it as their parent, and the others keep theirs. -/
theorem parent?_build {parts : Composition} {registry : Registry} :
    (build table namer parent parts registry).value.2.parent? child =
      if child ∈ parts.members.filterMap (SchemaUse.claimed? table) then some parent
      else registry.parent? child :=
  parent?_classifyAll

/-- A sum type is in conflict about a schema that it claims when this has another parent. -/
theorem conflict_build_iff {parts : Composition} {registry : Registry} :
    (build table namer parent parts registry).Conflict child ↔
      child ∈ parts.members.filterMap (SchemaUse.claimed? table) ∧
        registry.HasOther child parent := by
  simp only [build, Reported.conflict_bind_iff, not_conflict_tagOf, Reported.not_conflict_pure,
    or_false, conflict_classifyAll_iff]

end SumType

end SchemaGraph
