/-!
# Diagnostics

A diagnostic is a finding that did not stop the work, and a `Log` collects them in the order in
which they were recorded. Recording an entry that the log already holds changes nothing.
-/

namespace SchemaGraph

/-- How serious a diagnostic is: after a warning the result is a reasonable fallback, after an error
it is incomplete. -/
inductive Severity where
  | warning
  | error
  deriving DecidableEq, Repr

/-- The word for a severity. -/
def Severity.label : Severity → String
  | .warning => "warning"
  | .error => "error"

/-- The place of a severity in their order. -/
def Severity.rank : Severity → Nat
  | .warning => 0
  | .error => 1

/-- What a diagnostic is about. -/
inductive DiagnosticKind where
  /-- A reference that points at nothing. -/
  | danglingReference
  /-- A chain of references that comes back to one of its own links. -/
  | referenceLoop
  /-- Two members of an `allOf` define one property with different types. -/
  | propertyConflict
  /-- A member of an `allOf` that has no properties to give. -/
  | allOfMemberIgnored
  /-- A member of an `allOf` that closes a cycle of such compositions. -/
  | allOfCycle
  /-- An alternative of a sum type that cannot be classified. -/
  | alternativeDropped
  /-- A schema claimed by two sum types. -/
  | sealedParentConflict
  /-- A discriminator mapping entry without a schema. -/
  | discriminatorMapping
  /-- A part of a document that cannot be read. -/
  | unsupported
  deriving DecidableEq, Repr

namespace DiagnosticKind

/-- The label of a kind in a printed diagnostic. -/
def label : DiagnosticKind → String
  | .danglingReference => "dangling-reference"
  | .referenceLoop => "reference-loop"
  | .propertyConflict => "property-conflict"
  | .allOfMemberIgnored => "allof-member-ignored"
  | .allOfCycle => "allof-cycle"
  | .alternativeDropped => "alternative-dropped"
  | .sealedParentConflict => "sealed-parent-conflict"
  | .discriminatorMapping => "discriminator-mapping"
  | .unsupported => "unsupported"

/-- The word for a kind in structured output. -/
def word : DiagnosticKind → String
  | .danglingReference => "danglingReference"
  | .referenceLoop => "referenceLoop"
  | .propertyConflict => "propertyConflict"
  | .allOfMemberIgnored => "allOfMemberIgnored"
  | .allOfCycle => "allOfCycle"
  | .alternativeDropped => "alternativeDropped"
  | .sealedParentConflict => "sealedParentConflict"
  | .discriminatorMapping => "discriminatorMapping"
  | .unsupported => "unsupported"

/-- Every kind. -/
def all : List DiagnosticKind :=
  [.danglingReference, .referenceLoop, .propertyConflict, .allOfMemberIgnored, .allOfCycle,
   .alternativeDropped, .sealedParentConflict, .discriminatorMapping, .unsupported]

end DiagnosticKind

/-- A finding that did not stop the work, and the schema or operation it was made at. -/
structure Diagnostic where
  kind : DiagnosticKind
  severity : Severity
  subject : Option String
  message : String
  deriving DecidableEq, Repr

/-- The line that shows a diagnostic. -/
def Diagnostic.line (diagnostic : Diagnostic) : String :=
  let label := diagnostic.severity.label ++ "[" ++ diagnostic.kind.label ++ "]"
  match diagnostic.subject with
  | some subject => label ++ " " ++ subject ++ ": " ++ diagnostic.message
  | none => label ++ " " ++ diagnostic.message

/-- Whether a diagnostic is an error. -/
def Diagnostic.isError (diagnostic : Diagnostic) : Bool :=
  diagnostic.severity = .error

/-- Diagnostics in the order in which they were recorded. -/
structure Log where
  entries : List Diagnostic
  deriving DecidableEq, Repr

namespace Log

/-- The log without entries. -/
def empty : Log := ⟨[]⟩

/-- Record a diagnostic, unless the log holds it already. -/
def push (log : Log) (diagnostic : Diagnostic) : Log :=
  if diagnostic ∈ log.entries then log else ⟨log.entries ++ [diagnostic]⟩

/-- Append the entries of another log, repeated ones included. -/
def append (log other : Log) : Log :=
  ⟨log.entries ++ other.entries⟩

/-- The entries of one kind. -/
def ofKind (log : Log) (kind : DiagnosticKind) : List Diagnostic :=
  log.entries.filter fun diagnostic => diagnostic.kind = kind

/-- The number of errors. -/
def errorCount (log : Log) : Nat :=
  log.entries.countP Diagnostic.isError

/-- Whether an error was recorded. -/
def hasErrors (log : Log) : Bool :=
  log.entries.any Diagnostic.isError

end Log

end SchemaGraph
