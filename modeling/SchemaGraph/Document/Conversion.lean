import SchemaGraph.Diagnostic.Finding
import SchemaGraph.Document.SchemaReading
import SchemaGraph.Schema.Table

/-!
# From document schemas to the table

`convert` brings a schema of a document into shape and reads it. One that cannot be read is reported
and admits any value, so a fault stays where it is.
-/

namespace SchemaGraph.Document

/-- A schema of a document as it is used, and whether it admits `null`. -/
structure Converted where
  use : SchemaUse
  nullable : Bool

/-- Convert a schema of a document with the given address. `subject` is the schema or operation it
belongs to. -/
def convert (address subject : Option String) (raw : Json) : Reported Converted :=
  match (readings address (shape raw)).asUse with
  | some reading => pure ⟨reading.use, reading.nullable⟩
  | none => do
      Reported.note subject .unreadableSchema
      pure ⟨.inline .any, false⟩

/-- The entry of the table for a use of a schema: a reference becomes an alias. -/
def entryOf : SchemaUse → Schema
  | .named reference => .alias reference
  | .inline schema => schema

/-- Convert named schemas into entries of a table. -/
def convertEntries (address : Option String) : List (String × Json) → Table → Reported Table
  | [], table => pure table
  | (name, raw) :: rest, table => do
      let converted ← convert address (some name) raw
      convertEntries address rest (table.insert name (entryOf converted.use))

/-- The table of the named schemas of a document. -/
def convertTable (address : Option String) (schemas : Keyed Json) : Reported Table :=
  convertEntries address schemas .empty

end SchemaGraph.Document
