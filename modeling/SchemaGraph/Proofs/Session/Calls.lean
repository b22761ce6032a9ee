import SchemaGraph.Proofs.Reports
import SchemaGraph.Session

/-!
# Calls on a session

A session answers calls: for the record of one schema, for those of all schemas or operations, or
for the whole graph. `Session.performAll_outcome` says that the order and the number of calls make
no difference to what they answer, and that a session only ever enters diagnostics in its log, each
once if the session is one that comes about. The reason is that a call reads everything but the log
and changes nothing but the log, so that a sequence of calls records the reports of its calls one
after the other (`Session.performAll_session`).
-/

namespace SchemaGraph

/-- The log of a document that has been loaded holds no diagnostic twice. -/
theorem Document.nodup_of_load {text : String} {document : Loaded} (h : load text = .ok document) :
    document.log.entries.Nodup := by
  unfold load at h
  split at h
  · next value _ =>
      unfold ofValue at h
      split at h
      · split at h
        · cases h
        · next root _ =>
            split at h
            · cases h
            · cases h
              exact Log.nodup_record (Log.nodup_record List.nodup_nil)
      · cases h
  · cases h

/-- What can be asked of a session. -/
inductive Call where
  | model (name : String)
  | models
  | operations
  | graph
  deriving DecidableEq, Repr

/-- What a session answers. -/
inductive Answer where
  | model (record : Option ModelRecord)
  | models (records : List ModelRecord)
  | operations (records : List OperationRecord)
  | graph (whole : TypeGraph)

/-- The answer without the diagnostics that a graph comes with. -/
def Answer.withoutLog : Answer → Answer
  | .graph whole => .graph { whole with log := .empty }
  | answer => answer

namespace Session

/-- Answer a call. -/
def perform (session : Session) : Call → Answer × Session
  | .model name => (.model (session.model? name).1, (session.model? name).2)
  | .models => (.models session.models.1, session.models.2)
  | .operations => (.operations session.operations.1, session.operations.2)
  | .graph => (.graph session.graph.1, session.graph.2)

/-- Answer calls one after the other. -/
def performAll : Session → List Call → List Answer × Session
  | session, [] => ([], session)
  | session, call :: rest =>
      let (answer, session) := session.perform call
      let (answers, session) := session.performAll rest
      (answer :: answers, session)

/-- The sessions that come about: a table or a document is prepared, and then calls are answered.
The log of a document holds no diagnostic twice, as it does after loading. -/
inductive Prepared : Session → Prop where
  | ofTable (config : Config) (table : Table) : Prepared (.ofTable config table)
  | ofDocument (config : Config) (document : Document.Loaded) (hlog : document.log.entries.Nodup) :
      Prepared (.ofDocument config document)
  | perform {session : Session} (h : Prepared session) (call : Call) :
      Prepared (session.perform call).2

/-- The reports that a call makes. -/
def reports (session : Session) : Call → List Report
  | .model name => (session.catalog.model? name).reports
  | .models => session.catalog.models.reports
  | .operations => (session.catalog.operations session.operationList).reports
  | .graph =>
      session.catalog.models.reports ++ (session.catalog.operations session.operationList).reports

variable {session : Session}

/-- A call enters its reports in the log and changes nothing else. -/
theorem perform_session (session : Session) (call : Call) :
    (session.perform call).2 =
      { session with log := session.log.record (session.reports call) } := by
  cases call with
  | graph =>
      simp only [reports, Log.record_append]
      rfl
  | _ => rfl

/-- What the log holds makes no difference to the answer. -/
theorem perform_withoutLog (session : Session) (log : Log) (call : Call) :
    (({ session with log := log } : Session).perform call).1.withoutLog =
      (session.perform call).1.withoutLog := by
  cases call <;> rfl

/-- Calls enter their reports in the log one after the other and change nothing else. -/
theorem performAll_session (session : Session) (calls : List Call) :
    (session.performAll calls).2 =
      { session with log := session.log.record (calls.flatMap session.reports) } := by
  induction calls generalizing session with
  | nil => rfl
  | cons call rest ih =>
      rw [performAll, ih, perform_session, List.flatMap_cons, Log.record_append]
      rfl

/-- Each call is answered as if it were the first one. -/
theorem performAll_answers (session : Session) (calls : List Call) :
    (session.performAll calls).1.map Answer.withoutLog =
      calls.map fun call => (session.perform call).1.withoutLog := by
  induction calls generalizing session with
  | nil => rfl
  | cons call rest ih =>
      rw [performAll, List.map_cons, List.map_cons, ih]
      simp only [perform_session, perform_withoutLog]

/-- Each answer to a sequence of calls is that to one of them, whatever the log held then. -/
theorem exists_call_of_mem_answers {calls : List Call} {answer : Answer}
    (h : answer ∈ (session.performAll calls).1) :
    ∃ call ∈ calls, ∃ log, answer = (({ session with log := log } : Session).perform call).1 := by
  induction calls generalizing session with
  | nil => cases h
  | cons call rest ih =>
      rcases List.mem_cons.1 h with rfl | hlater
      · exact ⟨call, List.mem_cons_self, session.log, rfl⟩
      · have hrest : answer ∈ ((session.perform call).2.performAll rest).1 := hlater
        obtain ⟨later, hmem, log, heq⟩ := ih hrest
        rw [perform_session] at heq
        exact ⟨later, List.mem_cons_of_mem _ hmem, log, heq⟩

/-- The log of a session holds no diagnostic twice. -/
theorem Prepared.nodup_log (h : session.Prepared) : session.log.entries.Nodup := by
  induction h with
  | ofTable config table => exact Log.nodup_record (Log.nodup_record List.nodup_nil)
  | ofDocument config document hlog => exact Log.nodup_record (Log.nodup_record hlog)
  | perform _ call ih =>
      rw [perform_session]
      exact Log.nodup_record ih

/-- After any calls a session is still one that comes about. -/
theorem Prepared.performAll (h : session.Prepared) (calls : List Call) :
    (session.performAll calls).2.Prepared := by
  induction calls generalizing session with
  | nil => exact h
  | cons call rest ih => exact ih (h.perform call)

/-- A session that is loaded from text comes about. -/
theorem prepared_of_load {config : Config} {text : String}
    (h : Session.load config text = .ok session) : session.Prepared := by
  unfold Session.load at h
  cases hload : Document.load text with
  | error fault => simp [hload, Except.map] at h
  | ok document =>
      simp only [hload, Except.map, Except.ok.injEq] at h
      exact h ▸ .ofDocument config document (Document.nodup_of_load hload)

/-- Calls on a session are answered alike in every order, and however often they are repeated. They
leave everything but the log as it is, and append to the log. No diagnostic stands twice in the log
of a session that comes about. Repeating a call adds nothing, and the same calls always lead to the
same diagnostics. -/
theorem performAll_outcome (session : Session) (calls : List Call) :
    (session.performAll calls).1.map Answer.withoutLog =
      calls.map (fun call => (session.perform call).1.withoutLog) ∧
    { (session.performAll calls).2 with log := session.log } = session ∧
    session.log.entries <+: (session.performAll calls).2.log.entries ∧
    (session.Prepared → (session.performAll calls).2.log.entries.Nodup) ∧
    (∀ call ∈ calls,
      ((session.performAll calls).2.perform call).2 = (session.performAll calls).2) ∧
    ∀ other : List Call, (∀ call, call ∈ calls ↔ call ∈ other) → ∀ diagnostic,
      diagnostic ∈ (session.performAll calls).2.log.entries ↔
        diagnostic ∈ (session.performAll other).2.log.entries := by
  refine ⟨performAll_answers session calls, ?unchanged, ?grows,
    fun h => (h.performAll calls).nodup_log, ?repeated, ?reordered⟩
  case unchanged => rw [performAll_session]
  case grows =>
    rw [performAll_session]
    exact Log.record_prefix _ _
  case repeated =>
    intro call hcall
    rw [performAll_session, perform_session]
    have hrecord : (session.log.record (calls.flatMap session.reports)).record
        (session.reports call) = session.log.record (calls.flatMap session.reports) :=
      Log.record_eq_self fun report hreport =>
        Log.mem_record.2 (.inr ⟨report, List.mem_flatMap.2 ⟨call, hcall, hreport⟩, rfl⟩)
    exact congrArg (fun log => { session with log := log }) hrecord
  case reordered =>
    intro other hsame diagnostic
    simp only [performAll_session, Log.mem_record, List.mem_flatMap, hsame]

/-- An owner of a pet that is not in the table. -/
def owners : Table :=
  ⟨[("Owner", .object ⟨[("pet", .named "#/components/schemas/Missing")], [], [], Docs.none⟩)],
    by decide⟩

/-- Three of these calls meet the missing pet, which is logged once. Asking in another order leads
to the same diagnostics. -/
theorem owners_logged_once :
    let calls : List Call := [.models, .operations, .model "Owner", .graph]
    (ofTable .default owners).Prepared ∧
    ((ofTable .default owners).performAll calls).2.log.entries.length = 1 ∧
    ((ofTable .default owners).performAll calls).2.log.entries.Nodup ∧
    ∀ diagnostic, diagnostic ∈ ((ofTable .default owners).performAll calls).2.log.entries ↔
      diagnostic ∈ ((ofTable .default owners).performAll calls.reverse).2.log.entries := by
  intro calls
  have hprepared : (ofTable .default owners).Prepared := .ofTable .default owners
  obtain ⟨_, _, _, hnodup, _, hreordered⟩ := performAll_outcome (ofTable .default owners) calls
  refine ⟨hprepared, by decide +kernel, hnodup hprepared, hreordered calls.reverse ?_⟩
  intro call
  exact List.mem_reverse.symm

end Session

end SchemaGraph
