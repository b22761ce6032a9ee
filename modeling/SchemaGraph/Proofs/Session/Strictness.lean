import SchemaGraph.Proofs.AliasLoop
import SchemaGraph.Proofs.Cycle.Marking
import SchemaGraph.Proofs.Flattening.Errors
import SchemaGraph.Proofs.Links.Claims
import SchemaGraph.Session

/-!
# When strict runs fail

`Session.ensureClean_graph_iff` says that a strict run over a table fails exactly when dependencies
or aliases of the table go round. Every error is traced to such a cycle: resolution is the only step
after the flattening that reports errors, and flattening and marking keep the aliases of the table.
No cycle stays hidden: the flattening finds those of dependencies, and the record of an alias needs
the schema that the alias leads to.
-/

namespace SchemaGraph

/-- All steps report as they should if each does. -/
theorem Reported.Every.forAll {α β : Type} {property : Report → Prop} {step : α → Reported β}
    {items : List α} (h : ∀ item ∈ items, (step item).Every property) :
    (Reported.forAll step items).Every property := by
  intro report hreport
  rw [Reported.reports_forAll] at hreport
  obtain ⟨item, hitem, hreport⟩ := List.mem_flatMap.1 hreport
  exact h item hitem report hreport

/-- A conflict of two parents is a warning. -/
theorem Registry.warns_register {registry : Registry} {child parent : String} :
    (registry.register child parent).Every Report.IsWarning :=
  every_register.mono fun _ hkind => Report.isWarning_of_kind hkind nofun nofun

namespace SumType

variable {table : Table} {namer : Namer} {parent : String} {kind : CompositionKind}

/-- Classifying a member reports errors only where aliases go round. -/
theorem errors_classify {position : Nat} {member : SchemaUse} {registry : Registry} :
    (classify table namer parent kind position member registry).Every
      (Report.ErrorOnlyIf table.AliasesLoop) := by
  unfold classify
  split
  · refine .bind Table.errors_resolve ?_
    dsimp only
    split
    · exact .bind (.pure _) (.pure _)
    · exact .bind Registry.warns_register.errorOnlyIf (.pure _)
  · split
    · exact .pure _
    · exact .pure _
    · exact .pure _
    · exact .pure _
    · exact .bind (.errorOnlyIf (.note rfl)) (.pure _)

theorem errors_classifyAll {position : Nat} {members : List SchemaUse} {registry : Registry} :
    (classifyAll table namer parent kind position members registry).Every
      (Report.ErrorOnlyIf table.AliasesLoop) := by
  induction members generalizing position registry with
  | nil => exact .pure _
  | cons member rest ih => exact .bind errors_classify (.bind ih (.pure _))

/-- A mapping entry without a schema is a warning, whatever the reason. -/
theorem warns_tagOf {parts : Composition} {alternatives : List Alternative} :
    (tagOf table namer parent parts alternatives).Every Report.IsWarning :=
  every_tagOf.mono fun _ hkind => Report.isWarning_of_kind hkind nofun nofun

theorem errors_build {parts : Composition} {registry : Registry} :
    (build table namer parent parts registry).Every (Report.ErrorOnlyIf table.AliasesLoop) :=
  .bind errors_classifyAll (.bind warns_tagOf.errorOnlyIf (.pure _))

end SumType

theorem Discovery.errors_ofEntries {table : Table} {namer : Namer}
    {entries : List (String × Schema)} {discovery : Discovery} :
    (ofEntries table namer entries discovery).Every (Report.ErrorOnlyIf table.AliasesLoop) := by
  fun_induction ofEntries table namer entries discovery with
  | case1 => exact .pure _
  | case2 discovery name parts rest hsum ih => exact .bind SumType.errors_build (ih _ _)
  | case3 discovery name parts rest hsum ih => exact ih
  | case4 discovery entry rest hother ih => exact ih

/-- Discovering sum types reports errors only where aliases go round. -/
theorem Table.errors_discover (table : Table) (namer : Namer) :
    (table.discover namer).Every (Report.ErrorOnlyIf table.AliasesLoop) :=
  Discovery.errors_ofEntries

/-- Types report errors only where aliases go round. -/
theorem TypeMapper.errors_schemaType (mapper : TypeMapper) (subject : Option String) :
    (∀ payload schema, (mapper.schemaType payload subject schema).Every
      (Report.ErrorOnlyIf mapper.table.AliasesLoop)) ∧
    ∀ payload use, (mapper.typeOf payload subject use).Every
      (Report.ErrorOnlyIf mapper.table.AliasesLoop) := by
  have hreference : ∀ payload reference, (mapper.referenceType payload subject reference).Every
      (Report.ErrorOnlyIf mapper.table.AliasesLoop) :=
    fun _ _ => .bind Table.errors_resolve (.pure _)
  apply TypeMapper.schemaType.mutual_induct
  case case1 | case7 => exact fun _ _ => .pure _
  case case2 | case3 => exact fun _ _ ih => .bind ih (.pure _)
  case case4 | case10 => exact hreference
  case case5 => exact fun _ _ _ _ ih => ih
  case case6 =>
    intro payload parts hmany
    rw [schemaType]
    · exact .pure _
    · exact hmany
  case case8 | case9 => exact fun _ => .pure _
  case case11 => exact fun _ _ ih => ih

namespace Catalog

variable {catalog : Catalog} {name : String} {schema : Schema}

theorem errors_valueContent :
    (catalog.valueContent name schema).Every (Report.ErrorOnlyIf catalog.table.AliasesLoop) :=
  .bind ((catalog.mapper.errors_schemaType (some name)).1 .plain schema) (.pure _)

theorem errors_content :
    (catalog.content name schema).Every (Report.ErrorOnlyIf catalog.table.AliasesLoop) := by
  unfold content
  split
  · refine .bind (.forAll fun ((_, use), _) _ => .bind ?_ (.pure _)) (.pure _)
    exact (catalog.mapper.errors_schemaType (some name)).2 .plain use
  · exact .pure _
  · split
    · exact .pure _
    · exact errors_valueContent
  · exact errors_valueContent

/-- Making the records of all schemas reports errors only where aliases go round. -/
theorem errors_models :
    catalog.models.Every (Report.ErrorOnlyIf catalog.table.AliasesLoop) :=
  .forAll fun _ _ => .bind errors_content (.pure _)

/-- Making the record of an alias reports what resolving its reference reports. -/
theorem reports_modelRecord_alias (catalog : Catalog) (name reference : String) :
    (catalog.modelRecord name (.alias reference)).reports =
      (catalog.table.resolve (some name) reference).reports := by
  simp [modelRecord, content, valueContent, TypeMapper.schemaType, TypeMapper.referenceType, mapper]

/-- An alias that leads back to itself is found when its record is made. -/
theorem exists_error_models (h : catalog.table.AliasesLoop) :
    ∃ report ∈ catalog.models.reports, report.finding.severity = .error := by
  obtain ⟨name, hcycle⟩ := h
  obtain ⟨_, ⟨reference, hget, _⟩, _⟩ := Relation.TransGen.head'_iff.1 hcycle
  obtain ⟨entry, hloop⟩ := Table.exists_resolve?_eq_loop hget hcycle
  refine ⟨⟨some name, .aliasLoop reference entry⟩, ?_, rfl⟩
  rw [models, Reported.reports_forAll]
  refine List.mem_flatMap.2 ⟨_, Table.get?_eq_some_iff.1 hget, ?_⟩
  rw [reports_modelRecord_alias]
  simp [Table.resolve, hloop, ResolutionFailure.subject, ResolutionFailure.finding]

end Catalog

namespace Session

/-- Marking and flattening keep the aliases of a table. -/
theorem sameAliases_ofTable (config : Config) (table : Table) :
    table.SameAliases (ofTable config table).catalog.table := by
  intro name reference
  exact (table.flatten_stage.sameAliases name reference).trans
    (Table.sameAliases_markEdges _ _ name reference)

/-- All that is reported until every record of a table is made. -/
def reportsOf (config : Config) (table : Table) : List Report :=
  let catalog := (ofTable config table).catalog
  table.flatten.reports ++ (catalog.table.discover catalog.namer).reports ++ catalog.models.reports

/-- When all records of a table are made, the log holds what was reported on the way. -/
theorem log_graph_ofTable (config : Config) (table : Table) :
    (ofTable config table).graph.2.log = Log.empty.record (reportsOf config table) := by
  rw [reportsOf, Log.record_append, Log.record_append]
  rfl

/-- Errors are reported exactly where dependencies or aliases of the table go round. -/
theorem exists_error_reportsOf_iff (config : Config) (table : Table) :
    (∃ report ∈ reportsOf config table, report.finding.severity = .error) ↔
      ¬ table.Acyclic ∨ table.AliasesLoop := by
  have hsame := (sameAliases_ofTable config table).aliasStep_eq
  constructor
  · rintro ⟨report, hreport, herror⟩
    simp only [reportsOf, List.mem_append] at hreport
    rcases hreport with (hreport | hreport) | hreport
    · exact table.errors_flatten report hreport herror
    · obtain ⟨name, hcycle⟩ := Table.errors_discover _ _ report hreport herror
      exact .inr ⟨name, hsame ▸ hcycle⟩
    · obtain ⟨name, hcycle⟩ := Catalog.errors_models report hreport herror
      exact .inr ⟨name, hsame ▸ hcycle⟩
  · rintro (hcyclic | ⟨name, hcycle⟩)
    · rw [← Table.cycleFree_flatten_iff] at hcyclic
      simp only [Reported.CycleFree, not_forall, not_not] at hcyclic
      obtain ⟨report, hreport, hkind⟩ := hcyclic
      refine ⟨report, ?_, Finding.severity_eq_error_iff.2 (.inl hkind)⟩
      exact List.mem_append_left _ (List.mem_append_left _ hreport)
    · obtain ⟨report, hreport, herror⟩ := Catalog.exists_error_models ⟨name, hsame ▸ hcycle⟩
      exact ⟨report, List.mem_append_right _ hreport, herror⟩

/-- A session is refused when it is strict and its log holds an error. -/
theorem ensureClean_eq_error_iff {session : Session} :
    (∃ error, session.ensureClean = .error error) ↔
      session.config.strict ∧ ∃ diagnostic ∈ session.log.entries, diagnostic.isError := by
  unfold ensureClean
  split
  · next h => simpa [Log.hasErrors] using h
  · next h => simpa [Log.hasErrors] using h

/-- A strict run over a table fails exactly when `allOf` entries depend on themselves or aliases
lead back to themselves. No other finding is an error. -/
theorem ensureClean_graph_iff (config : Config) (hstrict : config.strict = true) (table : Table) :
    ((∃ error, (ofTable config table).graph.2.ensureClean = .error error) ↔
      (∃ name, Relation.TransGen table.DependsOn name name) ∨
        ∃ name, Relation.TransGen table.AliasStep name name) ∧
    ∀ diagnostic ∈ (ofTable config table).graph.2.log.entries,
      diagnostic.isError ↔ diagnostic.kind = .allOfCycle ∨ diagnostic.kind = .referenceLoop := by
  have hmem : ∀ diagnostic, diagnostic ∈ (ofTable config table).graph.2.log.entries ↔
      ∃ report ∈ reportsOf config table, report.diagnostic = diagnostic := by
    intro diagnostic
    rw [log_graph_ofTable, Log.mem_record]
    simp [Log.empty]
  constructor
  · have herrors := exists_error_reportsOf_iff config table
    simp only [Table.Acyclic, not_forall, not_not] at herrors
    rw [ensureClean_eq_error_iff, ← Table.AliasesLoop, ← herrors]
    simp only [hmem, exists_exists_and_eq_and, Report.isError_diagnostic]
    exact and_iff_right hstrict
  · intro diagnostic hdiagnostic
    obtain ⟨report, _, rfl⟩ := (hmem diagnostic).1 hdiagnostic
    exact Report.isError_diagnostic.trans Finding.severity_eq_error_iff

/-- Two aliases of each other, which nothing refers to. -/
def clock : Table :=
  ⟨[("Day", .alias "#/components/schemas/Night"), ("Night", .alias "#/components/schemas/Day")],
    by decide⟩

/-- A conflict among the members of an order, and an item whose order is missing. -/
def ledger : Table :=
  ⟨[("Order", .composition ⟨.allOf,
      [.inline (.object ⟨[("id", .inline (.scalar (.bare .string)))], [], [], Docs.none⟩),
        .inline (.object ⟨[("id", .inline (.scalar (.bare .integer)))], [], [], Docs.none⟩)],
      none, Docs.none⟩),
    ("Item", .object ⟨[("order", .named "#/components/schemas/Missing")], [], [], Docs.none⟩)],
    by decide⟩

/-- A strict run over the clock fails, and one over the ledger does not. -/
theorem clock_fails_ledger_passes :
    (∃ error, (ofTable { Config.default with strict := true } clock).graph.2.ensureClean =
      .error error) ∧
    ∀ error, (ofTable { Config.default with strict := true } ledger).graph.2.ensureClean ≠
      .error error := by
  constructor
  · have hday : clock.AliasStep "Day" "Night" := ⟨_, rfl, by decide +kernel⟩
    have hnight : clock.AliasStep "Night" "Day" := ⟨_, rfl, by decide +kernel⟩
    exact (ensureClean_graph_iff _ rfl clock).1.2 (.inr ⟨"Day", .tail (.single hday) hnight⟩)
  · intro error herror
    rcases (ensureClean_graph_iff _ rfl ledger).1.1 ⟨error, herror⟩ with
      ⟨name, hcycle⟩ | ⟨name, hcycle⟩
    · obtain ⟨_, ⟨parts, ⟨hget, _⟩, member, hmember, _, _, rfl, _⟩, _⟩ :=
        Relation.TransGen.head'_iff.1 hcycle
      have hentry := Table.get?_eq_some_iff.1 hget
      simp only [ledger, List.mem_cons, Prod.mk.injEq, Schema.composition.injEq, reduceCtorEq,
        and_false, List.not_mem_nil, or_false] at hentry
      obtain ⟨_, rfl⟩ := hentry
      simp at hmember
    · obtain ⟨_, ⟨_, hget, _⟩, _⟩ := Relation.TransGen.head'_iff.1 hcycle
      have hentry := Table.get?_eq_some_iff.1 hget
      simp [ledger] at hentry

end Session

end SchemaGraph
