import Mathlib.Data.List.Basic
import SchemaGraph.Command.Run

/-!
# What the commands have in common

`check` shows the diagnostics of a document, and `inspect` shows its type graph, which lists them
too. Read `Command.check_agrees_inspect` first: for the same files and flags both fail in the same
way before they show anything, or both show the same diagnostics and then end in the same way. The
text of `check` is a `Diagnostic.listing`; an entry of the array says which diagnostic it stands for
(`Diagnostic.toJson_injective`).
-/

namespace SchemaGraph

/-- Whether a diagnostic is a warning. -/
def Diagnostic.isWarning (diagnostic : Diagnostic) : Bool :=
  diagnostic.severity = .warning

/-- The text that lists diagnostics, each on a line, and counts the errors and the warnings. -/
def Diagnostic.listing (diagnostics : List Diagnostic) : String :=
  String.join (diagnostics.map fun diagnostic => diagnostic.line ++ "\n") ++
    toString (diagnostics.countP isError) ++ " error(s), " ++
    toString (diagnostics.countP isWarning) ++ " warning(s)\n"

/-- What is no error is a warning. -/
theorem Diagnostic.not_isError (diagnostic : Diagnostic) :
    (!diagnostic.isError) = diagnostic.isWarning := by
  rw [isError, isWarning]
  cases diagnostic.severity <;> rfl

/-- All entries of a log but the errors are warnings. -/
theorem Log.length_sub_errorCount (log : Log) :
    log.entries.length - log.errorCount = log.entries.countP Diagnostic.isWarning := by
  have hsplit : log.entries.length = log.entries.countP Diagnostic.isError +
      log.entries.countP fun diagnostic => ¬ diagnostic.isError :=
    List.length_eq_countP_add_countP Diagnostic.isError
  have hwarnings : (log.entries.countP fun diagnostic => !diagnostic.isError) =
      log.entries.countP Diagnostic.isWarning :=
    List.countP_congr fun diagnostic _ => by rw [diagnostic.not_isError]
  rw [errorCount]
  simp only [Bool.not_eq_true, Bool.decide_eq_false] at hsplit
  omega

/-- A log has errors when it counts some. -/
theorem Log.hasErrors_iff (log : Log) : log.hasErrors ↔ 0 < log.errorCount := by
  rw [hasErrors, errorCount, List.any_eq_true, List.countP_pos_iff]

/-- A kind is found by its word. -/
theorem DiagnosticKind.find?_word (kind : DiagnosticKind) :
    (all.find? fun other => other.word = kind.word) = some kind := by
  cases kind <;> rfl

/-- Kinds have different words. -/
theorem DiagnosticKind.word_injective : Function.Injective word := by
  intro kind other h
  have hfound := find?_word kind
  rw [h, find?_word other] at hfound
  exact (Option.some.inj hfound).symm

/-- Severities have different words. -/
theorem Severity.label_injective : Function.Injective label := by
  intro severity other h
  cases severity <;> cases other <;> first | rfl | exact absurd h (by decide)

/-- An optional text is read back. -/
theorem Json.textOrNull_injective : Function.Injective textOrNull := by
  intro text other h
  cases text <;> cases other <;> cases h <;> rfl

/-- An entry of the array stands for one diagnostic only. -/
theorem Diagnostic.toJson_injective : Function.Injective toJson := by
  rintro ⟨kind, severity, subject, message⟩ ⟨_, _, _, _⟩ h
  simp only [toJson, Json.object.injEq, List.cons.injEq, Prod.mk.injEq, Json.string.injEq,
    true_and, and_true] at h
  obtain ⟨hkind, hseverity, hsubject, rfl⟩ := h
  obtain rfl := DiagnosticKind.word_injective hkind
  obtain rfl := Severity.label_injective hseverity
  obtain rfl := Json.textOrNull_injective hsubject
  rfl

/-- The array in a type graph lists the entries of its log, and nothing else. -/
theorem TypeGraph.diagnostics_toJson (graph : TypeGraph) (listed : List Diagnostic) :
    graph.toJson.field? "diagnostics" = some (.array (listed.map Diagnostic.toJson)) ↔
      listed = graph.log.entries := by
  have hfield : graph.toJson.field? "diagnostics" =
      some (.array (graph.log.entries.map Diagnostic.toJson)) := rfl
  rw [hfield, Option.some.injEq, Json.array.injEq]
  exact ⟨fun h => (List.map_injective_iff.2 Diagnostic.toJson_injective h).symm, fun h => h ▸ rfl⟩

/-- A session that is loaded keeps its options. -/
theorem Session.config_of_load {config : Config} {text : String} {session : Session}
    (h : Session.load config text = .ok session) : session.config = config := by
  unfold load at h
  cases hload : Document.load text with
  | error fault =>
      rw [hload] at h
      cases h
  | ok document =>
      rw [hload] at h
      cases h
      rfl

namespace Command

/-- The report of a log lists its entries. -/
theorem report_eq (log : Log) : report log = Diagnostic.listing log.entries := by
  unfold report Diagnostic.listing
  rw [← log.length_sub_errorCount]
  rfl

/-- The errors of a log lead to a failure when the options of the session ask for it. -/
theorem strictFailure?_eq (session : Session) :
    strictFailure? session =
      if session.config.strict ∧ 0 < session.log.errorCount then
        some (.strict ⟨session.log.errorCount⟩) else none := by
  simp only [strictFailure?, Session.ensureClean, Bool.and_eq_true, Log.hasErrors_iff]
  split
  · next h =>
      split at h
      · cases h
      · next hnot => rw [if_neg hnot]
  · next h =>
      split at h
      · next hstrict =>
          cases h
          rw [if_pos hstrict]
      · cases h

section

variable {ε δ α β : Type}

/-- When two steps succeed, the first one does. -/
theorem exists_ok_of_bind {first : Except ε α} {next : α → Except ε β} {result : β}
    (h : first >>= next = .ok result) :
    ∃ value, first = .ok value ∧ next value = .ok result := by
  cases first with
  | error error => cases h
  | ok value => exact ⟨value, rfl, h⟩

/-- Another kind of error makes no difference to success. -/
theorem eq_ok_of_mapError {first : Except ε α} {change : ε → δ} {result : α}
    (h : first.mapError change = .ok result) : first = .ok result := by
  cases first with
  | error error => cases h
  | ok value =>
      cases h
      rfl

end

/-- A session has the options that the command was given. -/
theorem config_session {command : Command} {read : Reader} {prepared : Session}
    (h : command.session read = .ok prepared) :
    command.configuration read = .ok prepared.config := by
  unfold session at h
  split at h
  · cases h
  · obtain ⟨options, hoptions, hlater⟩ := exists_ok_of_bind h
    obtain ⟨text, _, hload⟩ := exists_ok_of_bind hlater
    rw [hoptions, Session.config_of_load (eq_ok_of_mapError hload)]

/-- What the two commands do with a prepared document. Both show it, and the array in the type graph
that `inspect` renders lists exactly the diagnostics that `check` lists, in the same order. Then
both end in the same way: they fail if the options ask for it and there is an error among the
diagnostics. -/
structure BothShow (prepared : Session) (format : OutputFormat) (diagnostics : List Diagnostic)
    (check inspect : Outcome) : Prop where
  listed : check.printed = Diagnostic.listing diagnostics
  rendered : inspect.printed = render format prepared.graph.1.toJson ++ "\n"
  array : ∀ listed : List Diagnostic,
    prepared.graph.1.toJson.field? "diagnostics" = some (.array (listed.map Diagnostic.toJson)) ↔
      listed = diagnostics
  written : check.written = none ∧ inspect.written = none
  failure : inspect.failure = check.failure
  strict : check.failure =
    if prepared.config.strict ∧ 0 < diagnostics.countP Diagnostic.isError then
      some (.strict ⟨diagnostics.countP Diagnostic.isError⟩) else none

/-- The two commands on one prepared document. -/
theorem bothShow (prepared : Session) (format : OutputFormat) :
    BothShow prepared format prepared.graph.2.log.entries (check prepared)
      (inspect prepared format none none) where
  listed := report_eq prepared.graph.2.log
  rendered := rfl
  array := prepared.graph.1.diagnostics_toJson
  written := ⟨rfl, rfl⟩
  failure := rfl
  strict := strictFailure?_eq prepared.graph.2

/-- For the same files, configuration and flags, `check` and `inspect` without a model and an output
file fail in the same way without showing or writing anything, when the document cannot be prepared,
or both show the document that was prepared with the options they were given. -/
theorem check_agrees_inspect (config : Option String) (input : InputArguments)
    (format : OutputFormat) (read : Reader) :
    let command : Command := ⟨config, input, .check⟩
    let check := run command read
    let inspect := run { command with task := .inspect format none none } read
    (∃ failure, command.session read = .error failure ∧
      check = .failed failure ∧ inspect = .failed failure) ∨
    ∃ prepared diagnostics, command.session read = .ok prepared ∧
      command.configuration read = .ok prepared.config ∧
      BothShow prepared format diagnostics check inspect := by
  intro command check inspect
  -- What is prepared does not depend on the task.
  have hsame : session { command with task := .inspect format none none } read =
      command.session read := rfl
  cases hsession : command.session read with
  | error failure =>
      refine .inl ⟨failure, rfl, ?_, ?_⟩
      · show run command read = .failed failure
        rw [run, hsession]
      · show run { command with task := .inspect format none none } read = .failed failure
        rw [run, hsame, hsession]
  | ok prepared =>
      have hcheck : check = Command.check prepared := by
        show run command read = Command.check prepared
        rw [run, hsession]
      have hinspect : inspect = Command.inspect prepared format none none := by
        show run { command with task := .inspect format none none } read =
          Command.inspect prepared format none none
        rw [run, hsame, hsession]
      rw [hcheck, hinspect]
      exact .inr ⟨prepared, _, rfl, config_session hsession, bothShow prepared format⟩

end Command

end SchemaGraph
