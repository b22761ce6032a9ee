import SchemaGraph.Proofs.AliasLoop
import SchemaGraph.Proofs.Flattening.Outcome

/-!
# Errors of the flattening

`Table.flatten_reports_cycles` says that the flattening reports a cycle exactly when dependencies go
round, and that every chain it reports closes one. As long as no cycle is reported, each entry is
flattened behind those it depends on, and an order of this kind leaves no room for a cycle. The only
other errors are those of aliases that go round (`Table.errors_flatten`).
-/

namespace SchemaGraph

namespace Table

/-- Where each name stands behind those it depends on, dependencies do not go round. -/
theorem BasesFirst.acyclic {table : Table} {names : List String} (hfirst : table.BasesFirst names)
    (hnodup : names.Nodup) (hall : ∀ name, table.HasAllOf name → name ∈ names) :
    table.Acyclic := by
  refine .of_rank (fun name => names.idxOf name) ?_
  intro name base hdepends
  have ⟨parts, hallOf, _⟩ := hdepends
  obtain ⟨before, after, rfl⟩ := List.append_of_mem (hall name ⟨parts, hallOf⟩)
  have hbase : base ∈ before := hfirst before name after rfl base hdepends
  have hname : name ∉ before := fun hmem =>
    (List.nodup_append.1 hnodup).2.2 name hmem name List.mem_cons_self rfl
  calc (before ++ name :: after).idxOf base
      = before.idxOf base := List.idxOf_append_of_mem hbase
    _ < before.length := List.idxOf_lt_length_of_mem hbase
    _ = (before ++ name :: after).idxOf name := by
      rw [List.idxOf_append_of_notMem hname, List.idxOf_cons_self, Nat.add_zero]

/-- No cycle is reported exactly when dependencies do not go round. -/
theorem cycleFree_flatten_iff {table : Table} : table.flatten.CycleFree ↔ table.Acyclic :=
  ⟨fun hfree => (basesFirst_flattened hfree).acyclic table.flatten_stage.once
    fun _ hallOf => mem_flattened.2 hallOf, Acyclic.cycleFree_flatten⟩

/-- The flattening reports a cycle exactly when some entry depends on itself, through others or at
once, and each chain that it reports leads along dependencies to a name that it has passed. -/
theorem flatten_reports_cycles (table : Table) :
    ((Log.empty.record table.flatten.reports).ofKind .allOfCycle ≠ [] ↔
      ∃ name, Relation.TransGen table.DependsOn name name) ∧
    ∀ diagnostic ∈ (Log.empty.record table.flatten.reports).ofKind .allOfCycle,
      ∃ subject position names,
        diagnostic = Report.diagnostic ⟨subject, .allOfCycle position names⟩ ∧
          table.ClosesCycle names := by
  have hmem : ∀ diagnostic,
      diagnostic ∈ (Log.empty.record table.flatten.reports).ofKind .allOfCycle ↔
        ∃ report ∈ table.flatten.reports, report.OfCycle ∧ report.diagnostic = diagnostic := by
    intro diagnostic
    simp only [Log.ofKind, List.mem_filter, Log.mem_record, Log.empty, List.not_mem_nil, false_or,
      decide_eq_true_eq]
    constructor
    · rintro ⟨⟨report, hreport, rfl⟩, hkind⟩
      exact ⟨report, hreport, hkind, rfl⟩
    · rintro ⟨report, hreport, hcycle, rfl⟩
      exact ⟨⟨report, hreport, rfl⟩, hcycle⟩
  refine ⟨?_, fun diagnostic hdiagnostic => ?_⟩
  · rw [ne_eq, List.eq_nil_iff_forall_not_mem, not_forall_not]
    have hfree : ¬ table.flatten.CycleFree ↔ ¬ table.Acyclic := not_congr cycleFree_flatten_iff
    simp only [Reported.CycleFree, Acyclic, not_forall, not_not] at hfree
    simpa [hmem] using hfree
  · obtain ⟨⟨subject, finding⟩, hreport, hcycle, rfl⟩ := (hmem diagnostic).1 hdiagnostic
    obtain ⟨position, names, rfl, hcloses⟩ := table.flatten_genuine _ hreport hcycle
    exact ⟨subject, position, names, rfl, hcloses⟩

end Table

namespace Flattening

/-- Every error of a run is about a cycle, or about aliases of the table that go round. -/
theorem Run.errors {table : Table} {idle chain : List String} {task : Task}
    {before after : Progress} {reports : List Report}
    (h : Run idle chain task before after reports) (hidle : idle.Nodup)
    (hstage : Stage table before.2) :
    ∀ report ∈ reports, report.ErrorOnlyIf (report.OfCycle ∨ table.AliasesLoop) := by
  induction h with
  | skipped | entriesNil | membersNil => nofun
  | inline => exact ObjectOf.warns_mergeInline.mono fun _ hwarning => hwarning.errorOnlyIf _
  | named => exact ObjectOf.warns_mergeNamed.mono fun _ hwarning => hwarning.errorOnlyIf _
  | unresolved =>
      have hsame := hstage.sameAliases.aliasStep_eq
      intro report hreport herror
      obtain ⟨name, hcycle⟩ := Table.errors_resolve report hreport herror
      exact .inr ⟨name, hsame ▸ hcycle⟩
  | cycle =>
      intro report hreport _
      obtain rfl := List.mem_singleton.1 hreport
      exact .inl rfl
  | base _ _ _ _ ih =>
      refine List.forall_mem_append.2 ⟨ih hidle hstage, ?_⟩
      exact ObjectOf.warns_mergeNamed.mono fun _ hwarning => hwarning.errorOnlyIf _
  | membersCons hfirst _ ihfirst ihrest | entriesCons hfirst _ ihfirst ihrest =>
      have hbetween := (hfirst.stage hidle hstage).1
      exact List.forall_mem_append.2 ⟨ihfirst hidle hstage, ihrest hidle hbetween⟩
  | entry _ _ _ ih => exact ih (hidle.erase _) hstage

end Flattening

/-- The flattening reports errors only where dependencies or aliases go round. -/
theorem Table.errors_flatten (table : Table) :
    table.flatten.Every (Report.ErrorOnlyIf (¬ table.Acyclic ∨ table.AliasesLoop)) := by
  intro report hreport herror
  refine ((Flattening.flatten_run table .empty).errors table.distinct (.start table) report
    hreport herror).imp_left fun hcycle hacyclic => ?_
  exact hacyclic.cycleFree_flatten report hreport hcycle

end SchemaGraph
