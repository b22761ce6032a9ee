import SchemaGraph.Schema.Basic

/-!
# Schema tables

A `Table` holds the named schemas of a document in document order. Changing the schema of a name
keeps the name's place.
-/

namespace SchemaGraph

/-- The named schemas of a document, each name once, in document order. -/
structure Table where
  entries : Keyed Schema
  distinct : Keyed.Distinct entries

namespace Table

/-- The table without schemas. -/
def empty : Table := ⟨[], List.nodup_nil⟩

/-- The names in order. -/
def names (table : Table) : List String :=
  Keyed.keys table.entries

/-- The schema of a name. -/
def get? (table : Table) (name : String) : Option Schema :=
  Keyed.get? table.entries name

/-- Whether a name is defined. -/
def contains (table : Table) (name : String) : Bool :=
  Keyed.has table.entries name

/-- Define a name, or replace its schema in place. -/
def insert (table : Table) (name : String) (schema : Schema) : Table :=
  ⟨Keyed.put table.entries name schema, table.distinct.put name schema⟩

/-- The number of schemas. -/
def size (table : Table) : Nat :=
  table.entries.length

/-- There are as many names as schemas. -/
theorem length_names (table : Table) : table.names.length = table.size :=
  List.length_map _

/-- A name is listed exactly when it has a schema. -/
theorem get?_isSome_iff (table : Table) (name : String) :
    (table.get? name).isSome ↔ name ∈ table.names :=
  Keyed.get?_isSome_iff table.entries name

/-- The entries are the names with their schemas. -/
theorem get?_eq_some_iff {table : Table} {name : String} {schema : Schema} :
    table.get? name = some schema ↔ (name, schema) ∈ table.entries :=
  table.distinct.get?_eq_some_iff

/-- A name that has a schema is listed. -/
theorem mem_names_of_get? {table : Table} {name : String} {schema : Schema}
    (h : table.get? name = some schema) : name ∈ table.names := by
  rw [← get?_isSome_iff, h]
  rfl

/-- Replacing the schema of a name keeps the names and their order. -/
theorem names_insert_of_mem {table : Table} {name : String} (h : name ∈ table.names)
    (schema : Schema) : (table.insert name schema).names = table.names := by
  simp only [names, insert, Keyed.keys_put] at h ⊢
  rw [if_pos h]

/-- After an insertion the name has the schema and the other names have what they had. -/
theorem get?_insert (table : Table) (name : String) (schema : Schema) (other : String) :
    (table.insert name schema).get? other =
      if other = name then some schema else table.get? other :=
  Keyed.get?_put table.entries name schema other

end Table

/-- Mark a property as one that may be null. -/
def ObjectOf.markNullable {definition : Type} (object : ObjectOf definition) (property : String) :
    ObjectOf definition :=
  ⟨object.properties, object.required, NameSet.add object.nullable property, object.docs⟩

/-- Mark a property of an object schema as one that may be null. -/
def Schema.markNullable (schema : Schema) (property : String) : Schema :=
  match schema with
  | .object shape => .object (shape.markNullable property)
  | _ => schema

/-- Mark a property of a named object as one that may be null. -/
def Table.markNullable (table : Table) (name property : String) : Table :=
  ⟨Keyed.modify table.entries name (·.markNullable property), table.distinct.modify _ _⟩

/-- Marking a property changes the schema of its object only. -/
theorem Table.get?_markNullable (table : Table) (name property other : String) :
    (table.markNullable name property).get? other =
      if other = name then (table.get? other).map (·.markNullable property)
      else table.get? other :=
  Keyed.get?_modify table.entries name (·.markNullable property) other

end SchemaGraph
