import SchemaGraph.Proofs.Cycle.BackEdges

/-!
# What marking leaves

Marking lets properties of objects be null and does nothing else: `Table.get?_markEdges` gives each
entry afterwards as the entry before with its own properties marked. So the aliases, the edges and
the edges that close a cycle are the same before and after (`edges_markEdges`,
`backEdges_markEdges`), and marking what is marked already changes nothing
(`markEdges_eq_self`).
-/

namespace SchemaGraph

namespace Schema

variable {schema other : Schema} {property : String} {properties : List String}

/-- The schema with properties of an object marked. -/
def markAll (schema : Schema) (properties : List String) : Schema :=
  properties.foldl markNullable schema

/-- Marking makes no schema of another kind out of an object. -/
theorem markNullable_eq_iff (hother : ∀ shape, other ≠ .object shape) :
    schema.markNullable property = other ↔ schema = other := by
  cases schema with
  | object shape =>
      exact ⟨fun heq => absurd heq.symm (hother _), fun heq => absurd heq.symm (hother shape)⟩
  | _ => rfl

/-- Marking keeps schemas that are no objects. -/
theorem markAll_eq_iff (hother : ∀ shape, other ≠ .object shape) :
    schema.markAll properties = other ↔ schema = other := by
  induction properties generalizing schema with
  | nil => rfl
  | cons property rest ih => exact ih.trans (markNullable_eq_iff hother)

/-- Marking properties of an object adds their names to those that may be null. -/
theorem markAll_object (shape : ObjectShape) (properties : List String) :
    (Schema.object shape).markAll properties = .object ⟨shape.properties, shape.required,
      NameSet.addAll shape.nullable properties, shape.docs⟩ := by
  induction properties generalizing shape with
  | nil => rfl
  | cons property rest ih => exact ih (shape.markNullable property)

end Schema

/-- The properties of an object that edges start with, in the order of the edges. -/
def marksOf (edges : List PropertyEdge) (name : String) : List String :=
  (edges.filter fun edge => edge.schema = name).map PropertyEdge.property

/-- A property of an object is among those that edges start with when an edge starts with it. -/
theorem mem_marksOf {edges : List PropertyEdge} {name property : String} :
    property ∈ marksOf edges name ↔ ∃ target, ⟨name, property, target⟩ ∈ edges := by
  simp only [marksOf, List.mem_map, List.mem_filter, decide_eq_true_eq]
  constructor
  · rintro ⟨edge, ⟨hedge, rfl⟩, rfl⟩
    exact ⟨edge.target, hedge⟩
  · rintro ⟨target, hedge⟩
    exact ⟨_, ⟨hedge, rfl⟩, rfl⟩

namespace Table

variable {table : Table} {name property : String}

/-- The entry has an object, and the property may be null in it. -/
def Nullable (table : Table) (name property : String) : Prop :=
  ∃ shape, table.get? name = some (.object shape) ∧ property ∈ shape.nullable

instance (table : Table) (name property : String) : Decidable (table.Nullable name property) :=
  match hget : table.get? name with
  | some (.object shape) =>
      decidable_of_iff (property ∈ shape.nullable) (by simp [Nullable, hget])
  | some (.scalar _) | some (.array _) | some (.map _) | some (.alias _) | some (.composition _)
  | some .any | some .unknown | none => isFalse (by simp [Nullable, hget])

/-- Marking a property keeps the names and their order. -/
theorem names_markNullable (table : Table) (name property : String) :
    (table.markNullable name property).names = table.names :=
  Keyed.keys_modify table.entries name (·.markNullable property)

/-- Marking properties keeps the names and their order. -/
theorem names_markEdges (table : Table) (edges : List PropertyEdge) :
    (table.markEdges edges).names = table.names := by
  induction edges generalizing table with
  | nil => rfl
  | cons edge rest ih => exact (ih _).trans (table.names_markNullable edge.schema edge.property)

/-- Each entry is afterwards what it was before, with its own properties marked. -/
theorem get?_markEdges (table : Table) (edges : List PropertyEdge) (name : String) :
    (table.markEdges edges).get? name =
      (table.get? name).map fun schema => schema.markAll (marksOf edges name) := by
  induction edges generalizing table with
  | nil => exact Option.map_id'.symm
  | cons edge rest ih =>
      simp only [markEdges, List.foldl_cons] at ih ⊢
      rw [ih, get?_markNullable]
      by_cases hname : name = edge.schema
      · subst hname
        rw [if_pos rfl, Option.map_map]
        simp only [marksOf, List.filter_cons, decide_true, if_true, List.map_cons]
        rfl
      · have hother : edge.schema ≠ name := Ne.symm hname
        simp [marksOf, hname, hother]

/-- An entry that is no object is found after marking exactly when it was there before. -/
theorem get?_markEdges_eq_some_iff {edges : List PropertyEdge} {other : Schema}
    (hother : ∀ shape, other ≠ .object shape) :
    (table.markEdges edges).get? name = some other ↔ table.get? name = some other := by
  rw [get?_markEdges, Option.map_eq_some_iff]
  simp only [Schema.markAll_eq_iff hother]
  exact ⟨fun ⟨_, hget, heq⟩ => heq ▸ hget, fun hget => ⟨other, hget, rfl⟩⟩

/-- Marking the properties of edges keeps the aliases. -/
theorem sameAliases_markEdges (table : Table) (edges : List PropertyEdge) :
    table.SameAliases (table.markEdges edges) :=
  fun _ _ => (get?_markEdges_eq_some_iff (by simp)).symm

/-- In tables with the same names and aliases a property leads to the same schema. -/
theorem SameAliases.followedTarget?_eq {other : Table} (hsame : table.SameAliases other)
    (hnames : other.names = table.names) : other.followedTarget? = table.followedTarget? := by
  have htransfer : ∀ {first second : Table}, first.SameAliases second →
      second.names = first.names → ∀ {use target}, first.followedTarget? use = some target →
      second.followedTarget? use = some target := by
    intro first second hsame hnames use target htarget
    obtain ⟨reference, schema, hfollowed, hleads⟩ := followedTarget?_eq_some_iff.1 htarget
    have hmem : target ∈ second.names := hnames ▸ mem_names_of_get? hleads.get?
    obtain ⟨found, hfound⟩ := Option.isSome_iff_exists.1 ((second.get?_isSome_iff target).2 hmem)
    exact followedTarget?_eq_some_iff.2
      ⟨reference, found, hfollowed, hleads.transfer hsame hfound⟩
  funext use
  refine Option.ext fun target => ⟨htransfer (fun name reference => ?_) hnames.symm,
    htransfer hsame hnames⟩
  exact (hsame name reference).symm

/-- Where properties lead to the same schemas, entries have the same edges. -/
theorem edgesOf_congr {other : Table} (hsame : other.followedTarget? = table.followedTarget?) :
    other.edgesOf = table.edgesOf := by
  funext name schema
  cases schema with
  | object shape => simp only [edgesOf, hsame]
  | _ => rfl

/-- A marked object has the edges that it had. -/
theorem edgesOf_markNullable (table : Table) (name property : String) (schema : Schema) :
    table.edgesOf name (schema.markNullable property) = table.edgesOf name schema := by
  cases schema <;> rfl

/-- Marking a property keeps the edges and their order. -/
theorem edges_markNullable (table : Table) (name property : String) :
    (table.markNullable name property).edges = table.edges := by
  -- Marking one property is marking that of one edge, whatever the edge leads to.
  have hsame : table.SameAliases (table.markNullable name property) :=
    table.sameAliases_markEdges [⟨name, property, name⟩]
  have hedges := edgesOf_congr (hsame.followedTarget?_eq (table.names_markNullable name property))
  rw [edges, hedges]
  simp only [markNullable, Keyed.modify, List.flatMap_map, edges]
  congr 1
  funext entry
  split
  · exact edgesOf_markNullable table entry.1 property entry.2
  · rfl

/-- Marking properties keeps the edges and their order. -/
theorem edges_markEdges (table : Table) (edges : List PropertyEdge) :
    (table.markEdges edges).edges = table.edges := by
  induction edges generalizing table with
  | nil => rfl
  | cons edge rest ih => exact (ih _).trans (table.edges_markNullable edge.schema edge.property)

/-- The edges that close a cycle are the same after marking. -/
theorem backEdges_markEdges (table : Table) (edges : List PropertyEdge) :
    (table.markEdges edges).backEdges = table.backEdges := by
  simp only [backEdges, edges_markEdges]

/-- Marking a property that may be null already changes nothing. -/
theorem markNullable_eq_self (h : table.Nullable name property) :
    table.markNullable name property = table := by
  obtain ⟨shape, hget, hmem⟩ := h
  have hentries : Keyed.modify table.entries name (·.markNullable property) = table.entries := by
    refine Keyed.modify_eq_self fun schema hentry => ?_
    cases hget.symm.trans (get?_eq_some_iff.2 hentry)
    simp only [Schema.markNullable, ObjectOf.markNullable, NameSet.add_eq_self hmem]
  simp only [markNullable, hentries]

/-- Marking properties that may be null already changes nothing. -/
theorem markEdges_eq_self {edges : List PropertyEdge}
    (h : ∀ edge ∈ edges, table.Nullable edge.schema edge.property) :
    table.markEdges edges = table := by
  induction edges with
  | nil => rfl
  | cons edge rest ih =>
      obtain ⟨hedge, hrest⟩ := List.forall_mem_cons.1 h
      simp only [markEdges, List.foldl_cons, markNullable_eq_self hedge]
      exact ih hrest

end Table

end SchemaGraph
