import SchemaGraph.Diagnostic.Log

/-!
# Findings

A `Finding` is the cause of a diagnostic with the data it depends on; `Finding.kind`,
`Finding.severity` and `Finding.message` say how it is shown. A computation of type `Reported α`
gives a value together with the reports made on the way. Its value cannot depend on what a log
already holds, since it has no access to one.
-/

namespace SchemaGraph

/-- The cause of a diagnostic. -/
inductive Finding where
  /-- A reference without a name. -/
  | malformedReference (reference : String)
  /-- A reference to a name that is not in the table. -/
  | missingSchema (reference : String)
  /-- A chain of aliases that comes back to `name`. -/
  | aliasLoop (reference name : String)
  /-- The member at a position closes the given chain of `allOf` schemas. -/
  | allOfCycle (position : Nat) (chain : List String)
  /-- The member at a position names a schema without properties. -/
  | namedMemberIgnored (position : Nat) (name label : String)
  /-- The member at a position is an inline schema without properties. -/
  | inlineMemberIgnored (position : Nat) (label : String)
  /-- A property is defined again with another type. -/
  | propertyConflict (property before after : String)
  /-- A schema is an alternative of two sum types. -/
  | parentConflict (previous parent : String)
  /-- The member at a position is no alternative. -/
  | alternativeDropped (keyword : String) (position : Nat) (label : String)
  /-- A discriminator mapping entry has no schema. -/
  | mappingDropped (wireValue target : String)
  /-- A schema does not have the structure of one. -/
  | unreadableSchema
  /-- A path item does not have the structure of one. -/
  | unreadablePathItem (detail : String)
  /-- A parameter is carried in an unknown place. -/
  | unknownLocation (parameter location : String)
  /-- A chain of parameter references comes back to one of its links. -/
  | parameterLoop (reference : String)
  /-- A parameter reference points at nothing. -/
  | missingParameter (reference : String)
  /-- A request body reference points at nothing. -/
  | missingRequestBody (reference : String)
  deriving DecidableEq, Repr

namespace Finding

/-- What a finding is about. -/
def kind : Finding → DiagnosticKind
  | .malformedReference _ | .missingSchema _ | .missingParameter _ | .missingRequestBody _ =>
      .danglingReference
  | .aliasLoop _ _ | .parameterLoop _ => .referenceLoop
  | .allOfCycle _ _ => .allOfCycle
  | .namedMemberIgnored _ _ _ | .inlineMemberIgnored _ _ => .allOfMemberIgnored
  | .propertyConflict _ _ _ => .propertyConflict
  | .parentConflict _ _ => .sealedParentConflict
  | .alternativeDropped _ _ _ => .alternativeDropped
  | .mappingDropped _ _ => .discriminatorMapping
  | .unreadableSchema | .unreadablePathItem _ | .unknownLocation _ _ => .unsupported

/-- Cycles are errors, everything else is a warning. -/
def severity : Finding → Severity
  | .aliasLoop _ _ | .parameterLoop _ | .allOfCycle _ _ => .error
  | _ => .warning

/-- The explanation shown to a reader. -/
def message : Finding → String
  | .malformedReference reference => "malformed reference '" ++ reference ++ "'"
  | .missingSchema reference => "reference '" ++ reference ++ "' does not match any schema"
  | .aliasLoop reference name =>
      "alias chain starting at '" ++ reference ++ "' loops on '" ++ name ++ "'"
  | .allOfCycle position chain =>
      "allOf member " ++ toString position ++ " closes a cycle (" ++ " -> ".intercalate chain ++
        "); member skipped"
  | .namedMemberIgnored position name label =>
      "allOf member " ++ toString position ++ " ('" ++ name ++ "') is " ++ label ++
        " and contributes no properties"
  | .inlineMemberIgnored position label =>
      "inline allOf member " ++ toString position ++ " is " ++ label ++
        " and contributes no properties"
  | .propertyConflict property before after =>
      "property '" ++ property ++ "' redefined from " ++ before ++ " to " ++ after ++
        "; last definition wins"
  | .parentConflict previous parent =>
      "alternative of both '" ++ previous ++ "' and '" ++ parent ++ "'; '" ++ parent ++
        "' is used as parent"
  | .alternativeDropped keyword position label =>
      keyword ++ " member " ++ toString position ++ " (" ++ label ++
        ") has no reference or recognizable type; dropped"
  | .mappingDropped wireValue target =>
      "mapping '" ++ wireValue ++ "' -> '" ++ target ++ "' does not match any schema; entry dropped"
  | .unreadableSchema =>
      "schema could not be read (data did not match any variant of untagged enum RefOr); " ++
        "treated as any"
  | .unreadablePathItem detail => "path item could not be read (" ++ detail ++ "); skipped"
  | .unknownLocation parameter location =>
      "parameter '" ++ parameter ++ "' has unknown location '" ++ location ++ "'"
  | .parameterLoop reference => "parameter reference '" ++ reference ++ "' loops"
  | .missingParameter reference =>
      "parameter reference '" ++ reference ++ "' does not resolve; dropped"
  | .missingRequestBody reference =>
      "request body reference '" ++ reference ++ "' does not resolve; dropped"

end Finding

/-- A finding and the schema or operation it was made at. -/
structure Report where
  subject : Option String
  finding : Finding
  deriving DecidableEq, Repr

/-- The diagnostic that shows a report. -/
def Report.diagnostic (report : Report) : Diagnostic :=
  ⟨report.finding.kind, report.finding.severity, report.subject, report.finding.message⟩

/-- Record reports one after the other. -/
def Log.record (log : Log) (reports : List Report) : Log :=
  reports.foldl (fun log report => log.push report.diagnostic) log

/-- Recording a diagnostic only appends. -/
theorem Log.push_prefix (log : Log) (diagnostic : Diagnostic) :
    log.entries <+: (log.push diagnostic).entries := by
  unfold Log.push
  split
  · exact List.prefix_refl _
  · exact List.prefix_append _ _

/-- Recording reports only appends. -/
theorem Log.record_prefix (log : Log) (reports : List Report) :
    log.entries <+: (log.record reports).entries := by
  induction reports generalizing log with
  | nil => exact List.prefix_refl _
  | cons report rest ih => exact (log.push_prefix report.diagnostic).trans (ih _)

/-- A value and the reports made while it was computed, in order. -/
structure Reported (α : Type) where
  value : α
  reports : List Report

namespace Reported

/-- Values combine as usual, and the reports of the first computation come first. -/
instance : Monad Reported where
  pure value := ⟨value, []⟩
  bind first next := ⟨(next first.value).value, first.reports ++ (next first.value).reports⟩

/-- Make one report. -/
def note (subject : Option String) (finding : Finding) : Reported Unit :=
  ⟨(), [⟨subject, finding⟩]⟩

variable {α β : Type}

@[simp]
theorem value_pure (value : α) : (pure value : Reported α).value = value := rfl

@[simp]
theorem reports_pure (value : α) : (pure value : Reported α).reports = [] := rfl

@[simp]
theorem value_bind (first : Reported α) (next : α → Reported β) :
    (first >>= next).value = (next first.value).value := rfl

@[simp]
theorem reports_bind (first : Reported α) (next : α → Reported β) :
    (first >>= next).reports = first.reports ++ (next first.value).reports := rfl

@[simp]
theorem reports_note (subject : Option String) (finding : Finding) :
    (note subject finding).reports = [⟨subject, finding⟩] := rfl

end Reported

end SchemaGraph
