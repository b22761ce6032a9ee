import SchemaGraph.Graph.Resolution
import SchemaGraph.Naming.Words

/-!
# Flattening compositions

`Table.flatten` replaces every `allOf` entry of a table by one object that merges its members in
order. Objects give their properties, a later definition of a name replacing an earlier one. A
member that names a sum type becomes one required property. A member that names another `allOf` is
flattened first, and one that leads back to a schema whose members are being merged is skipped.
-/

namespace SchemaGraph

mutual

/-- The text by which two definitions of a property are compared. -/
def Schema.signature : Schema → String
  | .scalar leaf =>
      match leaf.format with
      | some format => leaf.kind.label ++ "(" ++ format ++ ")"
      | none => leaf.kind.label
  | .array items => "array<" ++ useSignature items ++ ">"
  | .map values => "map<" ++ useSignature values ++ ">"
  | .alias reference => "$" ++ (Reference.schemaName? reference).getD ""
  | .object shape => (Schema.object shape).label
  | .composition parts => (Schema.composition parts).label
  | .any => Schema.any.label
  | .unknown => Schema.unknown.label

/-- The text by which two uses of a schema are compared. -/
def useSignature : Use Schema → String
  | .named reference => "$" ++ (Reference.schemaName? reference).getD ""
  | .inline schema => schema.signature

end

namespace ObjectOf

/-- Take one definition of a property into an object. It replaces an earlier one, which is reported
when the two differ in type, and decides alone whether the property may be null. -/
def mergeProperty (parent : String) (object : ObjectShape) (property : String) (use : SchemaUse)
    (required nullable : Bool) : Reported ObjectShape := do
  match Keyed.get? object.properties property with
  | some existing =>
      if useSignature existing ≠ useSignature use then
        Reported.note (some parent)
          (.propertyConflict property (useSignature existing) (useSignature use))
  | none => pure ()
  pure ⟨Keyed.put object.properties property use,
    if required then NameSet.add object.required property else object.required,
    if nullable then NameSet.add object.nullable property else object.nullable.erase property,
    object.docs⟩

/-- Take a list of properties of `source` into an object. -/
def mergeProperties (parent : String) (source : ObjectShape) :
    ObjectShape → List (String × SchemaUse) → Reported ObjectShape
  | object, [] => pure object
  | object, (property, use) :: rest => do
      let merged ← object.mergeProperty parent property use
        (source.required.contains property) (source.nullable.contains property)
      mergeProperties parent source merged rest

/-- Take an object into another. Its required names count even where it does not define them. -/
def merge (parent : String) (object source : ObjectShape) : Reported ObjectShape := do
  let merged ← mergeProperties parent source object source.properties
  pure ⟨merged.properties, NameSet.addAll merged.required source.required, merged.nullable,
    merged.docs⟩

/-- Take an inline member into an object. -/
def mergeInline (parent : String) (position : Nat) (object : ObjectShape) (member : Schema) :
    Reported ObjectShape :=
  match member with
  | .object source => object.merge parent source
  | .any => pure object
  | other => do
      Reported.note (some parent) (.inlineMemberIgnored position other.label)
      pure object

/-- Take the entry `name`, which a member names by `reference`, into an object. -/
def mergeNamed (parent : String) (position : Nat) (reference name : String) (object : ObjectShape)
    (member : Option Schema) : Reported ObjectShape :=
  match member with
  | none => pure object
  | some (.object source) => object.merge parent source
  | some .any => pure object
  | some other =>
      if other.isSumType then
        object.mergeProperty parent (Naming.camelCase name) (.named reference) true false
      else do
        Reported.note (some parent) (.namedMemberIgnored position name other.label)
        pure object

end ObjectOf

/-- A table of which some entries are flattened, and their names in the order in which they were. -/
structure Flattening where
  table : Table
  flattened : List String

namespace Flattening

mutual

/-- Flatten an entry, unless it is no `allOf` any more. `idle` are the names whose members are not
being merged at the moment, and `chain` are those whose members are, outermost first. -/
def flattenEntry (idle chain : List String) (name : String) (state : Flattening) :
    Reported Flattening :=
  if _h : name ∈ idle then
    match state.table.get? name with
    | some (.composition parts) =>
        if parts.isSum then pure state
        else do
          let (object, state) ← mergeMembers (idle.erase name) (chain ++ [name]) name 1
            parts.members (⟨[], [], [], parts.docs⟩, state)
          pure ⟨state.table.insert name (.object object), state.flattened ++ [name]⟩
    | _ => pure state
  else pure state
termination_by (idle.length, 0)
decreasing_by
  have h := List.length_erase_of_mem _h
  have := List.length_pos_of_mem _h
  exact Prod.Lex.left _ _ (by omega)

/-- Merge one member of `parent` into its object. -/
def mergeMember (idle chain : List String) (parent : String) (position : Nat) (member : SchemaUse)
    (merged : ObjectShape × Flattening) : Reported (ObjectShape × Flattening) :=
  match member with
  | .inline schema => do
      let object ← merged.1.mergeInline parent position schema
      pure (object, merged.2)
  | .named reference => do
      let resolved ← merged.2.table.resolve (some parent) reference
      if resolved.isUnknown then pure merged
      else if resolved.schema.isAllOf && resolved.name ∉ idle then
        Reported.note (some parent) (.allOfCycle position (chain ++ [resolved.name]))
        pure merged
      else
        let state ←
          if resolved.schema.isAllOf then flattenEntry idle chain resolved.name merged.2
          else pure merged.2
        let object ← merged.1.mergeNamed parent position reference resolved.name
          (state.table.get? resolved.name)
        pure (object, state)
termination_by (idle.length, 1)
decreasing_by exact Prod.Lex.right _ (by omega)

/-- Merge the members of `parent`, the first of which has the given position, into its object. -/
def mergeMembers (idle chain : List String) (parent : String) (position : Nat)
    (members : List SchemaUse) (merged : ObjectShape × Flattening) :
    Reported (ObjectShape × Flattening) :=
  match members with
  | [] => pure merged
  | member :: rest => do
      let merged ← mergeMember idle chain parent position member merged
      mergeMembers idle chain parent (position + 1) rest merged
termination_by (idle.length, members.length + 2)
decreasing_by
  · exact Prod.Lex.right _ (by simp)
  · exact Prod.Lex.right _ (by simp)

end

/-- Flatten entries one after the other. -/
def flattenEntries (names : List String) : List String → Flattening → Reported Flattening
  | [], state => pure state
  | name :: rest, state => do
      let state ← flattenEntry names [] name state
      flattenEntries names rest state

end Flattening

/-- The names of the `allOf` entries of a table in order. -/
def Table.allOfNames (table : Table) : List String :=
  (table.entries.filter fun entry => entry.2.isAllOf).map Prod.fst

/-- The table with every `allOf` entry replaced by its merged object. -/
def Table.flatten (table : Table) : Reported Flattening :=
  Flattening.flattenEntries table.names table.allOfNames ⟨table, []⟩

end SchemaGraph
