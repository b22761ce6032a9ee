import Mathlib.Data.List.Nodup
import SchemaGraph.Diagnostic.Finding
import SchemaGraph.Keyed

/-!
# Reports and the log

`Reported.Every` says that all reports of a computation have a property, and follows how the
computation is put together. A log holds what it held before and the diagnostics of the reports that
were recorded, each once; what it holds already changes nothing.
-/

namespace SchemaGraph

namespace Reported

/-- Computations may be grouped as one likes. -/
instance : LawfulMonad Reported :=
  .mk' Reported (fun _ => by simp [Functor.map]) (fun _ _ => rfl)
    (fun _ _ _ => by simp [Bind.bind])

variable {α β : Type} {property other : Report → Prop}

@[simp]
theorem value_map (f : α → β) (result : Reported α) : (f <$> result).value = f result.value := rfl

@[simp]
theorem reports_map (f : α → β) (result : Reported α) : (f <$> result).reports = result.reports :=
  List.append_nil _

/-- Every report of the computation has the property. -/
def Every (property : Report → Prop) (result : Reported α) : Prop :=
  ∀ report ∈ result.reports, property report

theorem Every.pure (value : α) : Every property (Pure.pure value) :=
  fun _ h => nomatch h

theorem Every.note {subject : Option String} {finding : Finding} (h : property ⟨subject, finding⟩) :
    Every property (Reported.note subject finding) := by
  intro report hreport
  obtain rfl := List.mem_singleton.1 hreport
  exact h

theorem Every.bind {first : Reported α} {next : α → Reported β} (hfirst : first.Every property)
    (hnext : (next first.value).Every property) : (first >>= next).Every property := by
  intro report hreport
  exact (List.mem_append.1 hreport).elim (hfirst report) (hnext report)

theorem Every.mono {result : Reported α} (h : result.Every property)
    (himp : ∀ report, property report → other report) : result.Every other :=
  fun report hreport => himp report (h report hreport)

/-- The reports of one kind. -/
def ofKind (result : Reported α) (kind : DiagnosticKind) : List Report :=
  result.reports.filter fun report => report.finding.kind = kind

variable {kind : DiagnosticKind}

@[simp]
theorem ofKind_pure (value : α) : (Pure.pure value : Reported α).ofKind kind = [] := rfl

@[simp]
theorem ofKind_bind (first : Reported α) (next : α → Reported β) :
    (first >>= next).ofKind kind = first.ofKind kind ++ (next first.value).ofKind kind :=
  List.filter_append ..

/-- Where all reports are of other kinds there is none of this kind. -/
theorem Every.ofKind_eq_nil {result : Reported α}
    (h : result.Every fun report => report.finding.kind ≠ kind) : result.ofKind kind = [] :=
  List.filter_eq_nil_iff.2 fun report hreport => by simpa using h report hreport

end Reported

/-- Errors are the findings of a cycle of `allOf` members and of a chain that comes back. -/
theorem Finding.severity_eq_error_iff {finding : Finding} :
    finding.severity = .error ↔ finding.kind = .allOfCycle ∨ finding.kind = .referenceLoop := by
  cases finding <;> simp [Finding.severity, Finding.kind]

namespace Report

/-- The report is no error. -/
def IsWarning (report : Report) : Prop :=
  report.finding.severity = .warning

/-- A report is a warning when it is about neither a cycle of `allOf` members nor a chain that comes
back. -/
theorem isWarning_of_kind {report : Report} {kind : DiagnosticKind}
    (hkind : report.finding.kind = kind) (hcycle : kind ≠ .allOfCycle)
    (hloop : kind ≠ .referenceLoop) : report.IsWarning := by
  subst hkind
  have herror := mt Finding.severity_eq_error_iff.1 (not_or.2 ⟨hcycle, hloop⟩)
  unfold IsWarning
  cases hseverity : report.finding.severity with
  | error => exact absurd hseverity herror
  | warning => rfl

/-- If the report is an error, it has the given cause. -/
def ErrorOnlyIf (cause : Prop) (report : Report) : Prop :=
  report.finding.severity = .error → cause

/-- A warning needs no cause. -/
theorem IsWarning.errorOnlyIf {report : Report} (h : report.IsWarning) (cause : Prop) :
    report.ErrorOnlyIf cause := by
  intro herror
  cases h.symm.trans herror

/-- The diagnostic of a report is an error when its finding is one. -/
theorem isError_diagnostic {report : Report} :
    report.diagnostic.isError ↔ report.finding.severity = .error :=
  decide_eq_true_iff

end Report

/-- What only warns makes no error, whatever its cause would be. -/
theorem Reported.Every.errorOnlyIf {α : Type} {result : Reported α} {cause : Prop}
    (h : result.Every Report.IsWarning) : result.Every (Report.ErrorOnlyIf cause) :=
  h.mono fun _ hwarning => hwarning.errorOnlyIf cause

namespace Log

variable {log : Log} {reports : List Report} {diagnostic other : Diagnostic}

/-- Recording a diagnostic adds it and nothing else. -/
theorem mem_push :
    other ∈ (log.push diagnostic).entries ↔ other ∈ log.entries ∨ other = diagnostic := by
  rw [push, apply_ite entries]
  exact mem_append_missing

/-- Recording a diagnostic repeats none. -/
theorem nodup_push (h : log.entries.Nodup) : (log.push diagnostic).entries.Nodup := by
  rw [push, apply_ite entries]
  exact nodup_append_missing h

/-- The log holds what it held and the diagnostics of the recorded reports. -/
theorem mem_record :
    diagnostic ∈ (log.record reports).entries ↔
      diagnostic ∈ log.entries ∨ ∃ report ∈ reports, report.diagnostic = diagnostic := by
  induction reports generalizing log with
  | nil => simp [record]
  | cons report rest ih =>
      have hstep := @ih (log.push report.diagnostic)
      simp only [record, List.foldl_cons] at hstep ⊢
      rw [hstep, mem_push]
      simp [or_assoc, eq_comm]

/-- Recording reports repeats no diagnostic. -/
theorem nodup_record (h : log.entries.Nodup) : (log.record reports).entries.Nodup := by
  induction reports generalizing log with
  | nil => exact h
  | cons report rest ih => exact ih (nodup_push h)

/-- Recording two lists of reports is recording one after the other. -/
theorem record_append (log : Log) (reports more : List Report) :
    log.record (reports ++ more) = (log.record reports).record more :=
  List.foldl_append

/-- Recording a diagnostic of another kind adds none of this kind. -/
theorem ofKind_push_of_ne {kind : DiagnosticKind} (h : diagnostic.kind ≠ kind) :
    (log.push diagnostic).ofKind kind = log.ofKind kind := by
  rw [push]
  split
  · rfl
  · simp [ofKind, h]

/-- Recording a diagnostic that is new adds it to those of its kind. -/
theorem ofKind_push_of_new (h : diagnostic ∉ log.entries) :
    (log.push diagnostic).ofKind diagnostic.kind =
      log.ofKind diagnostic.kind ++ [diagnostic] := by
  rw [push, if_neg h]
  simp [ofKind]

/-- Reports of one kind that are new and distinct are all entered, in order, whatever is recorded
between them. -/
theorem ofKind_record {kind : DiagnosticKind}
    (hnew : ∀ report ∈ reports, report.finding.kind = kind → report.diagnostic ∉ log.entries)
    (hdistinct : ((reports.filter fun report => report.finding.kind = kind).map
      Report.diagnostic).Nodup) :
    (log.record reports).ofKind kind = log.ofKind kind ++
      (reports.filter fun report => report.finding.kind = kind).map Report.diagnostic := by
  induction reports generalizing log with
  | nil => exact (List.append_nil _).symm
  | cons report rest ih =>
      obtain ⟨hreport, hrest⟩ := List.forall_mem_cons.1 hnew
      have hstep : log.record (report :: rest) = (log.push report.diagnostic).record rest := rfl
      rw [hstep]
      by_cases hkind : report.finding.kind = kind
      · rw [List.filter_cons_of_pos (by simpa using hkind), List.map_cons,
          List.nodup_cons] at hdistinct
        obtain ⟨hfirst, hdistinct⟩ := hdistinct
        rw [ih ?_ hdistinct, List.filter_cons_of_pos (by simpa using hkind), List.map_cons]
        · subst hkind
          rw [List.append_cons]
          exact congrArg (· ++ _) (ofKind_push_of_new (hreport rfl))
        · intro other hother hotherKind
          rw [mem_push, not_or]
          refine ⟨hrest other hother hotherKind, fun heq => hfirst (heq ▸ ?_)⟩
          exact List.mem_map_of_mem (List.mem_filter.2 ⟨hother, by simpa using hotherKind⟩)
      · rw [List.filter_cons_of_neg (by simpa using hkind)] at hdistinct ⊢
        rw [ih ?_ hdistinct, ofKind_push_of_ne hkind]
        intro other hother hotherKind
        rw [mem_push, not_or]
        refine ⟨hrest other hother hotherKind, fun heq => hkind ?_⟩
        exact (congrArg Diagnostic.kind heq).symm.trans hotherKind

/-- Recording what a log holds already changes nothing. -/
theorem record_eq_self (h : ∀ report ∈ reports, report.diagnostic ∈ log.entries) :
    log.record reports = log := by
  induction reports with
  | nil => rfl
  | cons report rest ih =>
      have hpush : log.push report.diagnostic = log := if_pos (h report List.mem_cons_self)
      simp only [record, List.foldl_cons, hpush]
      exact ih fun other hother => h other (List.mem_cons_of_mem _ hother)

end Log

end SchemaGraph
