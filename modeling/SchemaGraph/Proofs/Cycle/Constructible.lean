import SchemaGraph.Proofs.Cycle.Marking

/-!
# What has to be there

A value of an object holds values of the schemas that its properties lead to, except where a
property may be null. `Table.markCycles_constructible` says that, once the properties that close a
cycle are marked, what a value has to hold in this way comes to an end: no object needs itself, and
no chain of properties that may not be null is longer than the table. Marking leaves all the rest of
the table as it is.
-/

namespace SchemaGraph

/-- Each edge starts where the one before it leads. -/
def PropertyEdge.Linked (path : List PropertyEdge) : Prop :=
  path.IsChain fun edge next => edge.target = next.schema

namespace Table

/-- The property is followed and may not be null. -/
def FollowsNonNull (table : Table) (edge : PropertyEdge) : Prop :=
  table.Follows edge ∧ ¬ table.Nullable edge.schema edge.property

instance (table : Table) (edge : PropertyEdge) : Decidable (table.FollowsNonNull edge) :=
  inferInstanceAs (Decidable (_ ∧ ¬ _))

/-- A property of the object `name` that may not be null leads to `next`. -/
def Needs (table : Table) (name next : String) : Prop :=
  ∃ property, table.FollowsNonNull ⟨name, property, next⟩

variable {table : Table} {name next property : String}

/-- An object is afterwards the one before with its own properties that close a cycle marked. -/
theorem get?_markCycles_object {shape : ObjectShape}
    (hget : table.get? name = some (.object shape)) :
    table.markCycles.get? name = some (.object ⟨shape.properties, shape.required,
      NameSet.addAll shape.nullable (marksOf table.backEdges name), shape.docs⟩) := by
  rw [markCycles, get?_markEdges, hget, Option.map_some, Schema.markAll_object]

/-- The property of an edge that closes a cycle may be null after marking. -/
theorem nullable_markCycles {edge : PropertyEdge} (hedge : edge ∈ table.backEdges) :
    table.markCycles.Nullable edge.schema edge.property := by
  obtain ⟨⟨shape, _, _, _, hget, _⟩, _⟩ := mem_backEdges.1 hedge
  refine ⟨_, get?_markCycles_object hget, ?_⟩
  exact NameSet.mem_addAll.2 (.inr (mem_marksOf.2 ⟨edge.target, hedge⟩))

/-- A property that may not be null after marking is one that closes no cycle. -/
theorem not_reaches_of_followsNonNull {edge : PropertyEdge}
    (h : table.markCycles.FollowsNonNull edge) :
    table.Follows edge ∧ ¬ table.Reaches edge.target edge.schema := by
  obtain ⟨hfollows, hnullable⟩ := h
  have hedge : edge ∈ table.edges := table.edges_markEdges table.backEdges ▸ mem_edges.2 hfollows
  refine ⟨mem_edges.1 hedge, fun hreaches => hnullable (nullable_markCycles ?_)⟩
  exact mem_backEdges.2 ⟨mem_edges.1 hedge, hreaches⟩

/-- After marking no object needs itself, at once or through others. -/
theorem not_needs_itself (table : Table) (name : String) :
    ¬ Relation.TransGen table.markCycles.Needs name name := by
  intro hcycle
  obtain ⟨next, ⟨property, hnonNull⟩, hback⟩ := Relation.TransGen.head'_iff.1 hcycle
  obtain ⟨_, hreaches⟩ := not_reaches_of_followsNonNull hnonNull
  -- The way back leads along followed properties, so that the first step closes a cycle.
  refine hreaches (Relation.ReflTransGen.mono ?_ _ _ hback)
  rintro before after ⟨property, hnonNull⟩
  exact ⟨property, (not_reaches_of_followsNonNull hnonNull).1⟩

/-- Where no object needs itself, a path of properties that may not be null is no longer than the
table. -/
theorem length_le_size {path : List PropertyEdge}
    (hreturn : ∀ name, ¬ Relation.TransGen table.Needs name name)
    (hnonNull : ∀ edge ∈ path, table.FollowsNonNull edge) (hlinked : PropertyEdge.Linked path) :
    path.length ≤ table.size := by
  have hsteps : path.IsChain fun edge next => table.Needs edge.schema next.schema := by
    refine hlinked.imp_of_mem_imp fun edge next hedge _ heq => ?_
    exact ⟨edge.property, heq ▸ hnonNull edge hedge⟩
  have hnodup : (path.map PropertyEdge.schema).Nodup :=
    nodup_of_isChain hreturn ((List.isChain_map _).2 hsteps)
  have hsub : path.map PropertyEdge.schema ⊆ table.names := by
    intro name hname
    obtain ⟨edge, hedge, rfl⟩ := List.mem_map.1 hname
    exact (hnonNull edge hedge).1.mem_names.1
  simpa [length_names] using hnodup.length_le_of_subset hsub

/-- Marking the properties that close a cycle keeps the names and their order and every entry but
for the properties of objects that may be null, and adds to these the marked properties of the
object. Afterwards no object needs itself, what an object needs comes to an end, and no path of
properties that may not be null is longer than the table. -/
theorem markCycles_constructible (table : Table) :
    table.markCycles.names = table.names ∧
    (∀ name schema, (∀ shape, schema ≠ .object shape) →
      (table.markCycles.get? name = some schema ↔ table.get? name = some schema)) ∧
    (∀ name shape, table.get? name = some (.object shape) → ∃ nullable,
      table.markCycles.get? name =
        some (.object ⟨shape.properties, shape.required, nullable, shape.docs⟩) ∧
      (shape.nullable.Nodup → nullable.Nodup) ∧
      ∀ property, property ∈ nullable ↔
        property ∈ shape.nullable ∨ ∃ target, ⟨name, property, target⟩ ∈ table.backEdges) ∧
    (∀ name, ¬ Relation.TransGen table.markCycles.Needs name name) ∧
    (WellFounded fun next name => table.markCycles.Needs name next) ∧
    ∀ path, (∀ edge ∈ path, table.markCycles.FollowsNonNull edge) → PropertyEdge.Linked path →
      path.length ≤ table.size := by
  have hnames : table.markCycles.names = table.names := table.names_markEdges _
  refine ⟨hnames, fun name schema hother => get?_markEdges_eq_some_iff hother, ?objects,
    table.not_needs_itself, ?finite, ?bounded⟩
  case objects =>
    intro name shape hget
    refine ⟨_, get?_markCycles_object hget, NameSet.nodup_addAll, fun property => ?_⟩
    rw [NameSet.mem_addAll, mem_marksOf]
  case finite =>
    refine wellFounded_of_no_return table.markCycles.names ?_ table.not_needs_itself
    rintro before after ⟨property, hnonNull⟩
    exact hnonNull.1.mem_names.2
  case bounded =>
    intro path hnonNull hlinked
    have hlength := length_le_size table.not_needs_itself hnonNull hlinked
    rwa [← length_names, hnames, length_names] at hlength

/-- A tree whose children are trees by another name, with a trunk that has a bark. -/
def orchard : Table :=
  ⟨[("Tree", .object ⟨[("kids", .inline (.array (.named "#/components/schemas/Sapling"))),
      ("trunk", .named "#/components/schemas/Trunk")], ["trunk"], [], Docs.none⟩),
    ("Sapling", .alias "#/components/schemas/Tree"),
    ("Trunk", .object ⟨[("bark", .named "#/components/schemas/Bark")], [], [], Docs.none⟩),
    ("Bark", .object ObjectShape.empty)], by decide⟩

/-- The children of a tree may be null after marking, and its trunk may not. A tree has to hold a
trunk and this a bark, which is no longer a path than the table. -/
theorem orchard_constructible :
    let path : List PropertyEdge := [⟨"Tree", "trunk", "Trunk"⟩, ⟨"Trunk", "bark", "Bark"⟩]
    orchard.markCycles.Nullable "Tree" "kids" ∧
      (∀ edge ∈ path, orchard.markCycles.FollowsNonNull edge) ∧
      PropertyEdge.Linked path ∧ path.length ≤ orchard.size := by
  intro path
  obtain ⟨_, _, hobjects, _, _, hbounded⟩ := markCycles_constructible orchard
  obtain ⟨nullable, hmarked, _, hmem⟩ := hobjects "Tree" _ rfl
  have hkids : orchard.markCycles.Nullable "Tree" "kids" := by
    refine ⟨_, hmarked, (hmem "kids").2 (.inr ⟨"Tree", ?_⟩)⟩
    decide +kernel
  have hnonNull : ∀ edge ∈ path, orchard.markCycles.FollowsNonNull edge := by decide +kernel
  have hlinked : PropertyEdge.Linked path := .cons_cons rfl (.singleton _)
  exact ⟨hkids, hnonNull, hlinked, hbounded path hnonNull hlinked⟩

end Table

end SchemaGraph
