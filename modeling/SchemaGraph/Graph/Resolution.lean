import SchemaGraph.Diagnostic.Finding
import SchemaGraph.Reference.Pointer
import SchemaGraph.Schema.Table

/-!
# Resolving references

A reference names an entry of the schema table, and an alias entry leads on to another one.
`Table.resolve?` follows the chain to the first entry that is no alias, or says why there is none.
`Table.resolve` never fails: it reports the reason and gives the unknown schema instead.
-/

namespace SchemaGraph

/-- An entry of the table, or the stand-in for one that cannot be found. -/
structure Resolved where
  name : String
  schema : Schema

namespace Resolved

/-- The name that stands in for a schema that cannot be found. -/
def unknownName : String := "UnknownSchema"

/-- The stand-in for a schema that cannot be found. -/
def unknown : Resolved := ⟨unknownName, .unknown⟩

/-- Whether the schema could not be found. -/
def isUnknown (resolved : Resolved) : Bool :=
  resolved.schema.isUnknown

end Resolved

/-- Why a reference leads to no schema. -/
inductive ResolutionFailure where
  /-- The reference holds no name. -/
  | malformed (reference : String)
  /-- The alias entry `name` refers on to a reference without a name. -/
  | malformedAlias (name reference : String)
  /-- A name on the chain is not in the table. -/
  | missing (reference : String)
  /-- The chain comes back to the entry `name`. -/
  | loop (reference name : String)
  deriving DecidableEq, Repr

namespace ResolutionFailure

/-- The finding that reports a failure. -/
def finding : ResolutionFailure → Finding
  | .malformed reference => .malformedReference reference
  | .malformedAlias _ reference => .malformedReference reference
  | .missing reference => .missingSchema reference
  | .loop reference name => .aliasLoop reference name

/-- The subject of the report: the alias entry that is at fault, or else the schema at hand. -/
def subject (failure : ResolutionFailure) (current : Option String) : Option String :=
  match failure with
  | .malformedAlias name _ => some name
  | _ => current

end ResolutionFailure

namespace Table

/-- Follow aliases from a name. `unseen` are the names that the chain has not yet met. -/
def followFrom (table : Table) (reference : String) (unseen : List String) (name : String) :
    Except ResolutionFailure Resolved :=
  match table.get? name with
  | none => .error (.missing reference)
  | some schema =>
      if _h : name ∈ unseen then
        match schema with
        | .alias next =>
            match Reference.schemaName? next with
            | some target => followFrom table reference (unseen.erase name) target
            | none => .error (.malformedAlias name next)
        | _ => .ok ⟨name, schema⟩
      else .error (.loop reference name)
termination_by unseen.length
decreasing_by
  rw [List.length_erase_of_mem _h]
  have := List.length_pos_of_mem _h
  omega

/-- The entry that a reference leads to through aliases. -/
def resolve? (table : Table) (reference : String) : Except ResolutionFailure Resolved :=
  match Reference.schemaName? reference with
  | some name => table.followFrom reference table.names name
  | none => .error (.malformed reference)

/-- The entry that a reference leads to, or a report and the unknown schema. -/
def resolve (table : Table) (subject : Option String) (reference : String) : Reported Resolved :=
  match table.resolve? reference with
  | .ok resolved => pure resolved
  | .error failure => do
      Reported.note (failure.subject subject) failure.finding
      pure .unknown

end Table

/-- What the use of a schema leads to. -/
inductive Target where
  | named (resolved : Resolved)
  | inline (schema : Schema)

/-- The schema, however it was reached. -/
def Target.schema : Target → Schema
  | .named resolved => resolved.schema
  | .inline schema => schema

/-- What the use of a schema leads to: the resolved entry, or the schema in place. -/
def Table.target (table : Table) (subject : Option String) (use : SchemaUse) : Reported Target :=
  match use with
  | .named reference => do
      let resolved ← table.resolve subject reference
      pure (.named resolved)
  | .inline schema => pure (.inline schema)

end SchemaGraph
