import SchemaGraph.Graph.Resolution

/-!
# Cycles of properties

An object property that refers to a schema, directly or as the item of a list, is an edge from its
object to that schema. `Table.backEdges` lists the edges from whose target the edge's own object can
be reached again, and `Table.markCycles` lets the properties of these edges be null, so that values
of the types can be built.
-/

namespace SchemaGraph

/-- The edge that a property makes: from its object to the schema it refers to. -/
structure PropertyEdge where
  schema : String
  property : String
  target : String
  deriving DecidableEq, Repr

/-- The reference that a property's schema is followed by: its own or that of its list items. -/
def SchemaUse.followed? : SchemaUse → Option String
  | .named reference => some reference
  | .inline (.alias reference) => some reference
  | .inline (.array (.named reference)) => some reference
  | .inline (.array (.inline (.alias reference))) => some reference
  | .inline _ => none

namespace Table

/-- The schema that a property leads to, if it is followed and its reference resolves. -/
def followedTarget? (table : Table) (use : SchemaUse) : Option String := do
  let reference ← SchemaUse.followed? use
  let resolved ← (table.resolve? reference).toOption
  pure resolved.name

/-- The edges of one entry of the table. -/
def edgesOf (table : Table) (name : String) : Schema → List PropertyEdge
  | .object shape =>
      shape.properties.filterMap fun (property, use) =>
        (table.followedTarget? use).map fun target => ⟨name, property, target⟩
  | _ => []

/-- The edges of a table, in table order and then in property order. -/
def edges (table : Table) : List PropertyEdge :=
  table.entries.flatMap fun (name, schema) => table.edgesOf name schema

end Table

/-- The edges whose object is among the given names. -/
def edgesFrom (names : List String) (edges : List PropertyEdge) : List PropertyEdge :=
  edges.filter fun edge => edge.schema ∈ names

/-- The edges whose object is not among the given names. -/
def edgesElsewhere (names : List String) (edges : List PropertyEdge) : List PropertyEdge :=
  edges.filter fun edge => edge.schema ∉ names

/-- Unless no edge starts at the given names, fewer edges start elsewhere. -/
theorem length_edgesElsewhere_lt {names : List String} {edges : List PropertyEdge}
    (h : edgesFrom names edges ≠ []) : (edgesElsewhere names edges).length < edges.length := by
  have hsome : ∃ edge ∈ edges, edge.schema ∈ names := by
    simpa [edgesFrom, List.filter_eq_nil_iff] using h
  obtain ⟨edge, hedge, hnames⟩ := hsome
  refine List.length_filter_lt_length_iff_exists.2 ⟨edge, hedge, ?_⟩
  simp [hnames]

/-- The names that can be reached over edges from the given names. Each edge is used once, when the
search first finds its object. -/
def reachableFrom (edges : List PropertyEdge) (found : List String) : List String :=
  if _h : edgesFrom found edges = [] then found
  else
    reachableFrom (edgesElsewhere found edges)
      (found ++ (edgesFrom found edges).map PropertyEdge.target)
termination_by edges.length
decreasing_by exact length_edgesElsewhere_lt _h

/-- Whether an edge closes a cycle: its own object can be reached from its target. -/
def PropertyEdge.closesCycle (edges : List PropertyEdge) (edge : PropertyEdge) : Bool :=
  edge.schema ∈ reachableFrom edges [edge.target]

namespace Table

/-- The edges that close a cycle, in the order of the table's edges. -/
def backEdges (table : Table) : List PropertyEdge :=
  table.edges.filter (PropertyEdge.closesCycle table.edges)

/-- Let the properties of edges be null. -/
def markEdges (table : Table) (edges : List PropertyEdge) : Table :=
  edges.foldl (fun table edge => table.markNullable edge.schema edge.property) table

/-- The table in which every property that closes a cycle may be null. -/
def markCycles (table : Table) : Table :=
  table.markEdges table.backEdges

end Table

end SchemaGraph
