import SchemaGraph.Proofs.Cycle.Constructible
import SchemaGraph.Proofs.Flattening.Outcome
import SchemaGraph.Proofs.Session.Calls

/-!
# Tables that are prepared

A table is in normal form when it has no `allOf` entry and every property that closes a cycle may be
null. Preparing leads to such a table (`normal_prepare`) and leaves such a table as it is
(`prepare_of_normal`). So `Session.prepare_performAll` says that the table of a session, prepared
once more, gives the same session again, up to the document around it, the list of flattened names
and the log.
-/

namespace SchemaGraph

namespace Table

/-- Nothing is left to flatten or to mark. -/
structure Normal (table : Table) : Prop where
  noAllOf : ∀ name, ¬ table.HasAllOf name
  nullable : ∀ edge ∈ table.backEdges, table.Nullable edge.schema edge.property

variable {table : Table}

/-- Marking properties keeps the `allOf` entries. -/
theorem hasAllOf_markEdges_iff {edges : List PropertyEdge} {name : String} :
    (table.markEdges edges).HasAllOf name ↔ table.HasAllOf name := by
  simp only [HasAllOf, AllOf]
  refine exists_congr fun parts => and_congr_left fun _ => get?_markEdges_eq_some_iff (by simp)

/-- Flattening leaves no `allOf` entry. -/
theorem not_hasAllOf_flatten (table : Table) (name : String) :
    ¬ table.flatten.value.table.HasAllOf name := by
  rintro ⟨parts, hallOf⟩
  obtain ⟨hopen, hallOf⟩ := table.flatten_stage.allOf_iff.1 hallOf
  exact hopen (mem_flattened.2 ⟨parts, hallOf⟩)

/-- A flattened table whose cycles are marked is in normal form. -/
theorem normal_markCycles_flatten (table : Table) :
    table.flatten.value.table.markCycles.Normal where
  noAllOf name hallOf := table.not_hasAllOf_flatten name (hasAllOf_markEdges_iff.1 hallOf)
  nullable edge hedge := by
    rw [markCycles, backEdges_markEdges] at hedge
    exact nullable_markCycles hedge

/-- A table in normal form is flat already. -/
theorem Normal.flatten_eq (h : table.Normal) : table.flatten = pure ⟨table, []⟩ := by
  have hnone : table.allOfNames = [] :=
    List.eq_nil_iff_forall_not_mem.2 fun name hname => h.noAllOf name (mem_allOfNames.1 hname)
  rw [flatten, hnone, Flattening.flattenEntries]

/-- A table in normal form is marked already. -/
theorem Normal.markCycles_eq (h : table.Normal) : table.markCycles = table :=
  markEdges_eq_self h.nullable

end Table

namespace Session

/-- Preparing leads to a table in normal form. -/
theorem normal_prepare (config : Config) (title : Option String) (operations : List Operation)
    (table : Table) (log : Log) :
    (prepare config title operations table log).catalog.table.Normal :=
  table.normal_markCycles_flatten

/-- Preparing a table in normal form discovers its sum types and does nothing else. -/
theorem prepare_of_normal {table : Table} (h : table.Normal) (config : Config)
    (title : Option String) (operations : List Operation) (log : Log) :
    prepare config title operations table log =
      { config := config
        title := title
        operationList := operations
        catalog := ⟨table, config.namer, (table.discover config.namer).value⟩
        flattened := []
        backEdges := table.backEdges
        log := log.record (table.discover config.namer).reports } := by
  have hmarked : table.markEdges table.backEdges = table := h.markCycles_eq
  simp only [prepare, h.flatten_eq, Reported.value_pure, Reported.reports_pure, hmarked]
  rfl

/-- The table of a session is in normal form, whatever was prepared and whatever calls have been
answered. Preparing this table once more flattens nothing and gives the same table, the same
properties that close a cycle, the same sum types and parents, and the same records. -/
theorem prepare_performAll (config : Config) (title : Option String)
    (operations : List Operation) (table : Table) (log : Log) (calls : List Call) :
    let prepared := ((prepare config title operations table log).performAll calls).2
    let again := ofTable config prepared.catalog.table
    prepared.catalog.table.Normal ∧ again.flattened = [] ∧
      again.catalog.table = prepared.catalog.table ∧ again.backEdges = prepared.backEdges ∧
      again.catalog.discovery.registry = prepared.catalog.discovery.registry ∧
      again.catalog.discovery.sumTypes = prepared.catalog.discovery.sumTypes ∧
      again.models.1 = prepared.models.1 := by
  have hnormal := normal_prepare config title operations table log
  -- The cycles of a marked table are those found before it was marked.
  have hedges : (prepare config title operations table log).catalog.table.backEdges =
      (prepare config title operations table log).backEdges := Table.backEdges_markEdges _ _
  rw [performAll_session]
  dsimp only
  rw [ofTable, prepare_of_normal hnormal, hedges]
  exact ⟨hnormal, rfl, rfl, rfl, rfl, rfl, rfl⟩

/-- A person with a friend who is a student, and students, who are persons. -/
def campus : Table :=
  ⟨[("Person", .object ⟨[("friend", .named "#/components/schemas/Student")], [], [], Docs.none⟩),
    ("Student", .composition ⟨.allOf, [.named "#/components/schemas/Person"], none, Docs.none⟩)],
    by decide⟩

example :
    let prepared := ofTable .default campus
    let again := ofTable .default prepared.catalog.table
    prepared.flattened = ["Student"] ∧ again.flattened = [] ∧
      prepared.backEdges.map PropertyEdge.place = [("Student", "friend")] ∧
      again.backEdges = prepared.backEdges := by
  cbv

end Session

end SchemaGraph
