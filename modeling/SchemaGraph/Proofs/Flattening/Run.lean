import SchemaGraph.Graph.Flattening
import SchemaGraph.Proofs.Flattening.Dependency

/-!
# Runs of the flattening

`Run` gives the rules of flattening as a relation between what is there before a task and after it,
with the reports made on the way. `flatten_run` says that the computation follows the rules, so that
a property of the flattening is proved once for each rule.
-/

namespace SchemaGraph.Flattening

/-- The object that is being merged, and the table with the names flattened so far. -/
abbrev Progress := ObjectShape × Flattening

/-- What is done next: to flatten one entry or several, or to merge one member or several into the
object of `parent`. -/
inductive Task where
  | entry (name : String)
  | entries (names : List String)
  | member (parent : String) (position : Nat) (member : SchemaUse)
  | members (parent : String) (position : Nat) (members : List SchemaUse)

/-- Put the object into the table in place of an entry. -/
def finish (name : String) (progress : Progress) : Flattening :=
  ⟨progress.2.table.insert name (.object progress.1), progress.2.flattened ++ [name]⟩

/-- The rules of flattening. `idle` are the names whose members are not being merged and `chain` are
those whose members are. -/
inductive Run : List String → List String → Task → Progress → Progress → List Report → Prop where
  /-- An entry that is no `allOf`, or whose members are being merged, is left as it is. -/
  | skipped {idle chain : List String} {name : String} {before : Progress}
      (h : name ∈ idle → ¬ before.2.table.HasAllOf name) :
      Run idle chain (.entry name) before before []
  /-- The members of an `allOf` entry are merged into an object that takes its place. -/
  | entry {idle chain : List String} {name : String} {parts : Composition}
      {before after : Progress} {reports : List Report} (hidle : name ∈ idle)
      (hallOf : before.2.table.AllOf name parts)
      (hmembers : Run (idle.erase name) (chain ++ [name]) (.members name 1 parts.members)
        (⟨[], [], [], parts.docs⟩, before.2) after reports) :
      Run idle chain (.entry name) before (before.1, finish name after) reports
  /-- An inline member is merged. -/
  | inline {idle chain : List String} {parent : String} {position : Nat} {schema : Schema}
      {before : Progress} :
      Run idle chain (.member parent position (.inline schema)) before
        ((before.1.mergeInline parent position schema).value, before.2)
        (before.1.mergeInline parent position schema).reports
  /-- A member that leads to no known schema is left out. -/
  | unresolved {idle chain : List String} {parent reference : String} {position : Nat}
      {before : Progress}
      (hunknown : (before.2.table.resolve (some parent) reference).value.isUnknown) :
      Run idle chain (.member parent position (.named reference)) before before
        (before.2.table.resolve (some parent) reference).reports
  /-- A member whose own members are being merged closes a cycle and is left out. -/
  | cycle {idle chain : List String} {parent reference : String} {position : Nat}
      {resolved : Resolved} {before : Progress}
      (hresolve : before.2.table.resolve? reference = .ok resolved)
      (hallOf : resolved.schema.isAllOf) (hbusy : resolved.name ∉ idle) :
      Run idle chain (.member parent position (.named reference)) before before
        [⟨some parent, .allOfCycle position (chain ++ [resolved.name])⟩]
  /-- A member that is no `allOf` is merged as it stands in the table. -/
  | named {idle chain : List String} {parent reference : String} {position : Nat}
      {resolved : Resolved} {before : Progress}
      (hresolve : before.2.table.resolve? reference = .ok resolved)
      (hunknown : resolved.isUnknown = false) (hallOf : resolved.schema.isAllOf = false) :
      Run idle chain (.member parent position (.named reference)) before
        ((before.1.mergeNamed parent position reference resolved.name
          (before.2.table.get? resolved.name)).value, before.2)
        (before.1.mergeNamed parent position reference resolved.name
          (before.2.table.get? resolved.name)).reports
  /-- A member that is an `allOf` is flattened and then merged. -/
  | base {idle chain : List String} {parent reference : String} {position : Nat}
      {resolved : Resolved} {before : Progress} {state : Flattening} {reports : List Report}
      (hresolve : before.2.table.resolve? reference = .ok resolved)
      (hallOf : resolved.schema.isAllOf) (hidle : resolved.name ∈ idle)
      (hentry : Run idle chain (.entry resolved.name) before (before.1, state) reports) :
      Run idle chain (.member parent position (.named reference)) before
        ((before.1.mergeNamed parent position reference resolved.name
          (state.table.get? resolved.name)).value, state)
        (reports ++ (before.1.mergeNamed parent position reference resolved.name
          (state.table.get? resolved.name)).reports)
  /-- Entries are flattened one after the other. -/
  | entriesNil {idle chain : List String} {before : Progress} :
      Run idle chain (.entries []) before before []
  | entriesCons {idle chain : List String} {name : String} {rest : List String}
      {before between after : Progress} {reports more : List Report}
      (hentry : Run idle chain (.entry name) before between reports)
      (hrest : Run idle chain (.entries rest) between after more) :
      Run idle chain (.entries (name :: rest)) before after (reports ++ more)
  /-- Members are merged one after the other. -/
  | membersNil {idle chain : List String} {parent : String} {position : Nat} {before : Progress} :
      Run idle chain (.members parent position []) before before []
  | membersCons {idle chain : List String} {parent : String} {position : Nat} {member : SchemaUse}
      {rest : List SchemaUse} {before between after : Progress} {reports more : List Report}
      (hmember : Run idle chain (.member parent position member) before between reports)
      (hrest : Run idle chain (.members parent (position + 1) rest) between after more) :
      Run idle chain (.members parent position (member :: rest)) before after (reports ++ more)

mutual

/-- Flattening an entry follows the rules. -/
theorem flattenEntry_run (idle chain : List String) (name : String) (object : ObjectShape)
    (state : Flattening) :
    Run idle chain (.entry name) (object, state)
      (object, (flattenEntry idle chain name state).value)
      (flattenEntry idle chain name state).reports := by
  by_cases hidle : name ∈ idle
  · rw [flattenEntry, dif_pos hidle]
    split
    · next parts hget =>
        -- A composition is skipped as well when it is a sum type.
        by_cases hsum : parts.isSum
        · rw [if_pos hsum]
          refine .skipped fun _ ⟨other, hother, hallOf⟩ => ?_
          cases hget.symm.trans hother
          rw [hsum] at hallOf
          cases hallOf
        · rw [if_neg hsum]
          have hmembers := mergeMembers_run (idle.erase name) (chain ++ [name]) name 1
            parts.members (⟨[], [], [], parts.docs⟩, state)
          have hrun : Run idle chain (.entry name) (object, state) _ _ :=
            .entry hidle ⟨hget, by simpa using hsum⟩ hmembers
          simpa [finish] using hrun
    · next hother => exact .skipped fun _ ⟨parts, hget, _⟩ => hother parts hget
  · rw [flattenEntry, dif_neg hidle]
    exact .skipped fun hmem => absurd hmem hidle
termination_by (idle.length, 0)
decreasing_by
  have h := List.length_erase_of_mem hidle
  have := List.length_pos_of_mem hidle
  exact Prod.Lex.left _ _ (by omega)

/-- Merging a member follows the rules. -/
theorem mergeMember_run (idle chain : List String) (parent : String) (position : Nat)
    (member : SchemaUse) (before : Progress) :
    Run idle chain (.member parent position member) before
      (mergeMember idle chain parent position member before).value
      (mergeMember idle chain parent position member before).reports := by
  cases member with
  | inline schema =>
      rw [mergeMember]
      simpa using Run.inline
  | named reference =>
      rw [mergeMember]
      by_cases hunknown : (before.2.table.resolve (some parent) reference).value.isUnknown
      · simpa [hunknown] using Run.unresolved hunknown
      · -- What is known has been resolved, so that the failure is out of the question.
        cases hresolve : before.2.table.resolve? reference with
        | error failure =>
            simp [Table.resolve, hresolve, Resolved.isUnknown, Resolved.unknown,
              Schema.isUnknown] at hunknown
        | ok resolved =>
            simp [Table.resolve, hresolve] at hunknown
            cases hallOf : resolved.schema.isAllOf with
            | false =>
                simpa [Table.resolve, hresolve, hunknown, hallOf] using
                  Run.named hresolve hunknown hallOf
            | true =>
                by_cases hidle : resolved.name ∈ idle
                · have hentry := flattenEntry_run idle chain resolved.name before.1 before.2
                  simpa [Table.resolve, hresolve, hunknown, hallOf, hidle] using
                    Run.base hresolve hallOf hidle hentry
                · simpa [Table.resolve, hresolve, hunknown, hallOf, hidle] using
                    Run.cycle hresolve hallOf hidle
termination_by (idle.length, 1)
decreasing_by exact Prod.Lex.right _ (by omega)

/-- Merging members follows the rules. -/
theorem mergeMembers_run (idle chain : List String) (parent : String) (position : Nat)
    (members : List SchemaUse) (before : Progress) :
    Run idle chain (.members parent position members) before
      (mergeMembers idle chain parent position members before).value
      (mergeMembers idle chain parent position members before).reports := by
  cases members with
  | nil =>
      rw [mergeMembers]
      exact .membersNil
  | cons member rest =>
      rw [mergeMembers]
      exact .membersCons (mergeMember_run idle chain parent position member before)
        (mergeMembers_run idle chain parent (position + 1) rest _)
termination_by (idle.length, members.length + 2)
decreasing_by
  · exact Prod.Lex.right _ (by simp)
  · exact Prod.Lex.right _ (by simp)

end

/-- Flattening entries follows the rules. -/
theorem flattenEntries_run (idle : List String) (object : ObjectShape) (names : List String)
    (state : Flattening) :
    Run idle [] (.entries names) (object, state)
      (object, (flattenEntries idle names state).value)
      (flattenEntries idle names state).reports := by
  induction names generalizing state with
  | nil => exact .entriesNil
  | cons name rest ih => exact .entriesCons (flattenEntry_run idle [] name object state) (ih _)

/-- Flattening a table follows the rules. No member is being merged when it begins. -/
theorem flatten_run (table : Table) (object : ObjectShape) :
    Run table.names [] (.entries table.allOfNames) (object, ⟨table, []⟩)
      (object, table.flatten.value) table.flatten.reports :=
  flattenEntries_run table.names object table.allOfNames ⟨table, []⟩

end SchemaGraph.Flattening
