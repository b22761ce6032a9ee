import SchemaGraph.Command.Arguments
import SchemaGraph.Command.Folder
import SchemaGraph.Session
import SchemaGraph.Yaml.Printer

/-!
# Running a command

`Command.run` says what a command prints, which file it writes and why it fails, given the files
that it reads. The document is looked for first, then the configuration is read, then the document.
A failure because of errors in the log comes after everything is printed or written.
-/

namespace SchemaGraph

/-- Why a command fails. -/
inductive Failure where
  /-- The document does not exist. -/
  | noDocument (path : String)
  /-- The document has no schema of the given name. -/
  | noSchema (name : String)
  /-- A file cannot be read or written. -/
  | file (error : FileError)
  /-- The configuration cannot be read as a file. -/
  | configFile (error : FileError)
  | config (error : ConfigError)
  | document (error : Document.LoadError)
  | strict (error : StrictError)
  deriving DecidableEq, Repr

/-- A named wrapper around the text of a value. -/
def wrapped (name text : String) : String :=
  name ++ "(" ++ text ++ ")"

/-- The structured text of a file error. -/
def FileError.details (error : FileError) : String :=
  wrapped "Io" ("Os \x7b code: " ++ toString error.code ++ ", kind: " ++ error.kind ++
    ", message: " ++ Text.quoted error.explanation ++ " \x7d")

/-- The structured text of a failure: those of the document and its configuration are set apart from
those of the command. -/
def Failure.details : Failure → String
  | .noDocument path =>
      wrapped "General" (Text.quoted ("Document not found: " ++ Text.quotedPath path))
  | .noSchema name => wrapped "General" (Text.quoted ("No schema named '" ++ name ++ "'"))
  | .file error => error.details
  | .configFile error => wrapped "Core" error.details
  | .config error => wrapped "Core" (wrapped "Config" (Text.quoted error.message))
  | .document error => wrapped "Core" (wrapped "Parse" (Text.quoted error.message))
  | .strict error => wrapped "Core" (wrapped "General" (Text.quoted error.message))

/-- The line that shows a failure. -/
def Failure.line (failure : Failure) : String :=
  "Error: " ++ failure.details ++ "\n"

/-- What a command does: the text that it prints, the file that it writes, and why it fails in the
end. -/
structure Outcome where
  printed : String
  written : Option (String × String)
  failure : Option Failure

namespace Outcome

/-- Fail without printing anything. -/
def failed (failure : Failure) : Outcome := ⟨"", none, some failure⟩

/-- The outcome when the file cannot be written. -/
def writeFailed (error : FileError) : Outcome := failed (.file error)

/-- What a command shows on standard error. -/
def complaint (outcome : Outcome) : String :=
  outcome.failure.elim "" Failure.line

/-- The exit status: zero for success. -/
def status (outcome : Outcome) : Nat :=
  if outcome.failure.isSome then 1 else 0

end Outcome

/-- The exit status of a command line that is not used correctly. -/
def usageStatus : Nat := 2

namespace Command

/-- How files are read. -/
abbrev Reader := String → Except FileError String

/-- Whether a path leads to something, be it a file or not. -/
def found (read : Reader) (path : String) : Bool :=
  match read path with
  | .ok _ => true
  | .error error => error.leavesOpen

/-- The configuration, with what overrides it. -/
def configuration (command : Command) (read : Reader) : Except Failure Config := do
  let config ← match command.config with
    | none => .ok Config.default
    | some path => do
        let text ← (read path).mapError .configFile
        (Config.ofFile path text).mapError .config
  .ok { config with
    packageName := command.input.packageName.or config.packageName
    strict := command.input.strict || config.strict }

/-- The prepared document. -/
def session (command : Command) (read : Reader) : Except Failure Session := do
  if !found read command.input.path then .error (.noDocument command.input.path)
  let config ← command.configuration read
  let text ← (read command.input.path).mapError .file
  (Session.load config text).mapError .document

/-- The failure that errors in the log lead to. -/
def strictFailure? (session : Session) : Option Failure :=
  match session.ensureClean with
  | .ok _ => none
  | .error error => some (.strict error)

/-- The lines that show a log: one for each entry and one that counts them. -/
def report (log : Log) : String :=
  let errors := log.errorCount
  String.join (log.entries.map fun diagnostic => diagnostic.line ++ "\n") ++
    toString errors ++ " error(s), " ++ toString (log.entries.length - errors) ++ " warning(s)\n"

/-- The text of a value in a format. -/
def render (format : OutputFormat) (value : Json) : String :=
  match format with
  | .json => value.pretty
  | .yaml => Yaml.print value

/-- Show what was reported for a document. -/
def check (session : Session) : Outcome :=
  let session := session.models.2.operations.2
  ⟨report session.log, none, strictFailure? session⟩

/-- What is shown of a session: one model of it, or its type graph. -/
def selection (session : Session) : Option String → Except Failure (Json × Session)
  | none =>
      let (graph, session) := session.graph
      .ok (graph.toJson, session)
  | some name =>
      match session.model? name with
      | (some record, session) => .ok (record.toJson, session)
      | (none, _) => .error (.noSchema name)

/-- Show a type graph or a model of it. A file gets no line feed after the text. -/
def inspect (session : Session) (format : OutputFormat) (model output : Option String) : Outcome :=
  match selection session model with
  | .error failure => .failed failure
  | .ok (value, session) =>
      let text := render format value
      match output with
      | none => ⟨text ++ "\n", none, strictFailure? session⟩
      | some path => ⟨"", some (path, text), strictFailure? session⟩

/-- What a command does. -/
def run (command : Command) (read : Reader) : Outcome :=
  match command.session read with
  | .error failure => .failed failure
  | .ok session =>
      match command.task with
      | .check => check session
      | .inspect format model output => inspect session format model output

end Command

end SchemaGraph
