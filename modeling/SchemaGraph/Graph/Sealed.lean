import SchemaGraph.Graph.Resolution
import SchemaGraph.Naming.Distinct
import SchemaGraph.Naming.Identifier

/-!
# Sum types

A `oneOf` or `anyOf` entry is a sum type. `Table.discover` classifies the alternatives of every sum
type of a table and records in a `Registry` which sum type each named alternative belongs to. When
several sum types claim a schema, the last one in table order becomes its parent.
-/

namespace SchemaGraph

/-- The parent of each schema that is an alternative of a sum type. -/
structure Registry where
  parents : Keyed String
  deriving DecidableEq, Repr

namespace Registry

/-- The registry without entries. -/
def empty : Registry := ⟨[]⟩

/-- The parent of a schema. -/
def parent? (registry : Registry) (child : String) : Option String :=
  Keyed.get? registry.parents child

/-- The schemas with a given parent, in the order in which they were first registered. -/
def childrenOf (registry : Registry) (parent : String) : List String :=
  (registry.parents.filter fun entry => entry.2 = parent).map Prod.fst

/-- Make `parent` the parent of `child`, and report an earlier parent that is another one. -/
def register (registry : Registry) (child parent : String) : Reported Registry := do
  match registry.parent? child with
  | some previous =>
      if previous ≠ parent then
        Reported.note (some child) (.parentConflict previous parent)
  | none => pure ()
  pure ⟨Keyed.put registry.parents child parent⟩

end Registry

/-- One alternative of a sum type. -/
inductive Alternative where
  /-- A named schema with its class. -/
  | reference (schemaName className : String)
  /-- A scalar in place, wrapped in a class of its own. -/
  | wrapped (kind : ScalarKind) (wrapperName : String)
  /-- An object, list or map in place, with its position among the members. -/
  | inline (position : Nat) (syntheticName : String)
  deriving DecidableEq, Repr

/-- The generated type of an alternative. -/
def Alternative.typeName : Alternative → String
  | .reference _ className => className
  | .wrapped _ wrapperName => wrapperName
  | .inline _ syntheticName => syntheticName

/-- An alternative, and whether another one comes after it. -/
structure ListedAlternative where
  alternative : Alternative
  hasNext : Bool
  deriving DecidableEq, Repr

/-- The schema that a value of the tag property selects, with its class. -/
structure TagTarget where
  wireValue : String
  schemaName : String
  className : String
  deriving DecidableEq, Repr

/-- The tag property of a sum type and the schemas that its values select. -/
structure Tag where
  propertyName : String
  mappings : List TagTarget
  deriving DecidableEq, Repr

/-- A sum type with its alternatives classified. -/
structure SumType where
  kind : CompositionKind
  alternatives : List ListedAlternative
  tag : Option Tag
  deriving DecidableEq, Repr

/-- The word for a scalar kind at the end of a class name. -/
def ScalarKind.classWord : ScalarKind → String
  | .string => "String"
  | .integer => "Integer"
  | .number => "Number"
  | .boolean => "Boolean"

namespace SumType

/-- What one member of a sum type contributes: an alternative, if it can be classified, and the
registry with a named alternative entered. -/
def classify (table : Table) (namer : Namer) (parent : String) (kind : CompositionKind)
    (position : Nat) (member : SchemaUse) (registry : Registry) :
    Reported (Option Alternative × Registry) :=
  match SchemaUse.target? member with
  | some reference => do
      let resolved ← table.resolve (some parent) reference
      let registry ←
        if resolved.isUnknown then pure registry else registry.register resolved.name parent
      pure (some (.reference resolved.name (namer.className resolved.name)), registry)
  | none =>
      match Use.schema? member with
      | some (.scalar leaf) =>
          pure (some (.wrapped leaf.kind (namer.className parent ++ leaf.kind.classWord)), registry)
      | some (.object _) | some (.array _) | some (.map _) =>
          pure (some (.inline position
            (namer.className parent ++ "Option" ++ toString position)), registry)
      | other => do
          Reported.note (some parent) (.alternativeDropped kind.keyword position
            ((other.map Schema.label).getD "unknown"))
          pure (none, registry)

/-- Classify the members of a sum type, the first of which has the given position. -/
def classifyAll (table : Table) (namer : Namer) (parent : String) (kind : CompositionKind) :
    Nat → List SchemaUse → Registry → Reported (List Alternative × Registry)
  | _, [], registry => pure ([], registry)
  | position, member :: rest, registry => do
      let (alternative, registry) ← classify table namer parent kind position member registry
      let (more, registry) ← classifyAll table namer parent kind (position + 1) rest registry
      pure (alternative.toList ++ more, registry)

/-- The wrapper names of alternatives in order. -/
def wrapperNames (alternatives : List Alternative) : List String :=
  alternatives.filterMap fun
    | .wrapped _ wrapperName => some wrapperName
    | _ => none

/-- Give the wrapped alternatives new wrapper names in order. -/
def renameWrappers : List Alternative → List String → List Alternative
  | .wrapped kind _ :: rest, name :: names => .wrapped kind name :: renameWrappers rest names
  | alternative :: rest, names => alternative :: renameWrappers rest names
  | [], _ => []

/-- The alternatives with distinct wrapper names. -/
def withDistinctWrappers (alternatives : List Alternative) : List Alternative :=
  renameWrappers alternatives (Naming.distinct (wrapperNames alternatives))

/-- The alternatives, each marked with whether another one comes after it. -/
def listed : List Alternative → List ListedAlternative
  | [] => []
  | alternative :: rest => ⟨alternative, !rest.isEmpty⟩ :: listed rest

/-- The tag targets when no mapping is given: each named alternative in the table, selected by its
own name. -/
def implicitTargets (table : Table) (alternatives : List Alternative) : List TagTarget :=
  alternatives.filterMap fun
    | .reference schemaName className =>
        if table.contains schemaName then some ⟨schemaName, schemaName, className⟩ else none
    | _ => none

/-- The tag targets of a mapping. Entries that select no schema are reported and dropped. -/
def mappedTargets (table : Table) (namer : Namer) (parent : String) :
    List MappingEntry → Reported (List TagTarget)
  | [] => pure []
  | entry :: rest =>
      match table.resolve? entry.target with
      | .ok resolved => do
          let more ← mappedTargets table namer parent rest
          pure (⟨entry.wireValue, resolved.name, namer.className resolved.name⟩ :: more)
      | .error _ => do
          Reported.note (some parent) (.mappingDropped entry.wireValue
            ((Reference.schemaName? entry.target).getD entry.target))
          mappedTargets table namer parent rest

/-- The tag of a sum type. Only a `oneOf` has one, and only when its property has a name. -/
def tagOf (table : Table) (namer : Namer) (parent : String) (parts : Composition)
    (alternatives : List Alternative) : Reported (Option Tag) :=
  match parts.kind, parts.discriminator with
  | .oneOf, some discriminator =>
      let name := Text.trim discriminator.propertyName.toList
      if name.isEmpty then pure none
      else if discriminator.mapping.isEmpty then
        pure (some ⟨String.ofList name, implicitTargets table alternatives⟩)
      else do
        let targets ← mappedTargets table namer parent discriminator.mapping
        pure (some ⟨String.ofList name, targets⟩)
  | _, _ => pure none

/-- The sum type of a composition named `parent`, and the registry with its alternatives. -/
def build (table : Table) (namer : Namer) (parent : String) (parts : Composition)
    (registry : Registry) : Reported (SumType × Registry) := do
  let (found, registry) ← classifyAll table namer parent parts.kind 1 parts.members registry
  let alternatives := withDistinctWrappers found
  let tag ← tagOf table namer parent parts alternatives
  pure (⟨parts.kind, listed alternatives, tag⟩, registry)

end SumType

/-- The sum types of a table in table order, and the parents of their alternatives. -/
structure Discovery where
  registry : Registry
  sumTypes : Keyed SumType
  deriving DecidableEq, Repr

namespace Discovery

/-- Nothing discovered. -/
def empty : Discovery := ⟨.empty, []⟩

/-- Discover the sum types among entries of a table. -/
def ofEntries (table : Table) (namer : Namer) :
    List (String × Schema) → Discovery → Reported Discovery
  | [], discovery => pure discovery
  | (name, .composition parts) :: rest, discovery =>
      if parts.isSum then do
        let (sumType, registry) ← SumType.build table namer name parts discovery.registry
        ofEntries table namer rest ⟨registry, Keyed.put discovery.sumTypes name sumType⟩
      else ofEntries table namer rest discovery
  | _ :: rest, discovery => ofEntries table namer rest discovery

end Discovery

/-- Discover the sum types of a table. -/
def Table.discover (table : Table) (namer : Namer) : Reported Discovery :=
  Discovery.ofEntries table namer table.entries .empty

end SchemaGraph
