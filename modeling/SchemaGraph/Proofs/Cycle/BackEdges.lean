import Mathlib.Data.List.Flatten
import Mathlib.Data.List.Nodup
import SchemaGraph.Proofs.Cycle.Reachability
import SchemaGraph.Proofs.Resolution

/-!
# Edges that close a cycle

A property is followed by the reference of its schema or of the items of its schema, and leads to
the entry that this reference leads to through aliases. `Table.backEdges_exact` says that the
listed edges are the followed properties from whose target their own object can be reached, each in
its place in the table.

As an edge itself leads from its object to its target, it is listed exactly when these two lie in
one strongly connected component. `Table.NumbersComponents.backEdges_eq` says that the search for
the object gives the same list as a comparison of the components' numbers, whatever these are; every
table has such numbers (`Table.numbersComponents_componentPosition`).
-/

namespace SchemaGraph

/-- The use names a schema, by a reference or by an alias in place. -/
inductive SchemaUse.Names : SchemaUse → String → Prop where
  | reference (reference : String) : Names (.named reference) reference
  | inlineAlias (reference : String) : Names (.inline (.alias reference)) reference

/-- A property of this schema is followed by the reference: the schema names it, or is a list of
items that name it. -/
inductive SchemaUse.FollowedBy : SchemaUse → String → Prop where
  | direct {use : SchemaUse} {reference : String} (h : SchemaUse.Names use reference) :
      FollowedBy use reference
  | items {items : SchemaUse} {reference : String} (h : SchemaUse.Names items reference) :
      FollowedBy (.inline (.array items)) reference

/-- The reference that is found for a property is the one it is followed by. -/
theorem SchemaUse.followed?_eq_some_iff {use : SchemaUse} {reference : String} :
    use.followed? = some reference ↔ use.FollowedBy reference := by
  constructor
  · intro h
    unfold SchemaUse.followed? at h
    split at h <;> cases h
    · exact .direct (.reference reference)
    · exact .direct (.inlineAlias reference)
    · exact .items (.reference reference)
    · exact .items (.inlineAlias reference)
  · intro h
    cases h with
    | direct h => cases h <;> rfl
    | items h => cases h <;> rfl

/-- The object and the property of an edge. -/
def PropertyEdge.place (edge : PropertyEdge) : String × String :=
  (edge.schema, edge.property)

/-- The names of the properties that a schema defines. -/
def Schema.propertyNames : Schema → List String
  | .object shape => Keyed.keys shape.properties
  | _ => []

namespace Table

/-- The property of the edge belongs to the edge's object and leads to the edge's target. -/
def Follows (table : Table) (edge : PropertyEdge) : Prop :=
  ∃ shape use reference schema, table.get? edge.schema = some (.object shape) ∧
    (edge.property, use) ∈ shape.properties ∧ SchemaUse.FollowedBy use reference ∧
    table.LeadsTo reference edge.target schema

/-- Followed properties lead from one name to another, in any number of steps. -/
def Reaches (table : Table) : String → String → Prop :=
  Relation.ReflTransGen fun name next => ∃ property, table.Follows ⟨name, property, next⟩

/-- The properties of the table, each with its object, in table order and then in the order of the
properties. -/
def places (table : Table) : List (String × String) :=
  table.entries.flatMap fun (name, schema) => schema.propertyNames.map (name, ·)

/-- The properties of each object are distinct, as the keys of a map are. -/
def PropertiesDistinct (table : Table) : Prop :=
  ∀ entry ∈ table.entries, entry.2.propertyNames.Nodup

instance (table : Table) : Decidable table.PropertiesDistinct :=
  inferInstanceAs (Decidable (∀ entry ∈ table.entries, entry.2.propertyNames.Nodup))

/-- The target found for a property is the name that its reference leads to. -/
theorem followedTarget?_eq_some_iff {table : Table} {use : SchemaUse} {target : String} :
    table.followedTarget? use = some target ↔
      ∃ reference schema, SchemaUse.FollowedBy use reference ∧
        table.LeadsTo reference target schema := by
  constructor
  · intro h
    simp only [followedTarget?, bind, Option.bind_eq_some_iff] at h
    obtain ⟨reference, hfollowed, resolved, hresolved, htarget⟩ := h
    cases htarget
    refine ⟨reference, resolved.schema, SchemaUse.followed?_eq_some_iff.1 hfollowed, ?_⟩
    cases hresolve : table.resolve? reference with
    | error failure => simp [hresolve, Except.toOption] at hresolved
    | ok found =>
        obtain rfl : found = resolved := by simpa [hresolve, Except.toOption] using hresolved
        exact resolve?_eq_ok_iff.1 hresolve
  · rintro ⟨reference, schema, hfollowed, hleads⟩
    simp [followedTarget?, SchemaUse.followed?_eq_some_iff.2 hfollowed, hleads.resolve?_eq,
      Except.toOption]

/-- The edges of an entry are the followed properties of its schema. -/
theorem mem_edgesOf {table : Table} {name : String} {schema : Schema} {edge : PropertyEdge} :
    edge ∈ table.edgesOf name schema ↔
      edge.schema = name ∧ ∃ shape use, schema = .object shape ∧
        (edge.property, use) ∈ shape.properties ∧
        table.followedTarget? use = some edge.target := by
  cases schema <;> simp only [edgesOf]
  case object shape =>
    simp only [List.mem_filterMap, Option.map_eq_some_iff, Prod.exists]
    constructor
    · rintro ⟨property, use, hmem, target, htarget, rfl⟩
      exact ⟨rfl, shape, use, rfl, hmem, htarget⟩
    · rintro ⟨rfl, _, use, hshape, hmem, htarget⟩
      cases hshape
      exact ⟨edge.property, use, hmem, edge.target, htarget, rfl⟩
  all_goals simp

/-- The edges of a table are its followed properties. -/
theorem mem_edges {table : Table} {edge : PropertyEdge} :
    edge ∈ table.edges ↔ table.Follows edge := by
  simp only [edges, List.mem_flatMap, Prod.exists, mem_edgesOf]
  constructor
  · rintro ⟨name, _, hentry, rfl, shape, use, rfl, hmem, htarget⟩
    obtain ⟨reference, schema, hfollowed, hleads⟩ := followedTarget?_eq_some_iff.1 htarget
    exact ⟨shape, use, reference, schema, get?_eq_some_iff.2 hentry, hmem, hfollowed, hleads⟩
  · rintro ⟨shape, use, reference, schema, hget, hmem, hfollowed, hleads⟩
    exact ⟨edge.schema, _, get?_eq_some_iff.1 hget, rfl, shape, use, rfl, hmem,
      followedTarget?_eq_some_iff.2 ⟨reference, schema, hfollowed, hleads⟩⟩

instance (table : Table) (edge : PropertyEdge) : Decidable (table.Follows edge) :=
  decidable_of_iff (edge ∈ table.edges) mem_edges

/-- The schema that a property belongs to and the one it leads to are names of the table. -/
theorem Follows.mem_names {table : Table} {edge : PropertyEdge} (h : table.Follows edge) :
    edge.schema ∈ table.names ∧ edge.target ∈ table.names := by
  obtain ⟨_, _, _, _, hget, _, _, hleads⟩ := h
  exact ⟨mem_names_of_get? hget, mem_names_of_get? hleads.get?⟩

/-- Steps over the edges of a table are the steps along its followed properties. -/
theorem edgeStep_edges_iff {table : Table} {name next : String} :
    EdgeStep table.edges name next ↔ ∃ property, table.Follows ⟨name, property, next⟩ := by
  constructor
  · rintro ⟨edge, hedge, rfl, rfl⟩
    exact ⟨edge.property, mem_edges.1 hedge⟩
  · rintro ⟨property, hfollows⟩
    exact ⟨_, mem_edges.2 hfollows, rfl, rfl⟩

/-- A name reaches the names that chains of edges lead to. -/
theorem reaches_iff {table : Table} {name other : String} :
    table.Reaches name other ↔ Relation.ReflTransGen (EdgeStep table.edges) name other := by
  have hstep : EdgeStep table.edges =
      fun name next => ∃ property, table.Follows ⟨name, property, next⟩ := by
    funext name next
    exact propext edgeStep_edges_iff
  rw [hstep, Reaches]

instance (table : Table) (name other : String) : Decidable (table.Reaches name other) :=
  decidable_of_iff (other ∈ reachableFrom table.edges [name]) <| by
    simp [mem_reachableFrom_iff, ReachedFrom, reaches_iff]

/-- An edge is listed exactly when it is a followed property whose target reaches its object. -/
theorem mem_backEdges {table : Table} {edge : PropertyEdge} :
    edge ∈ table.backEdges ↔ table.Follows edge ∧ table.Reaches edge.target edge.schema := by
  rw [backEdges, List.mem_filter, mem_edges, closesCycle_iff, reaches_iff]

/-- Two names lie in one strongly connected component: each of them reaches the other. -/
def Connected (table : Table) (name other : String) : Prop :=
  table.Reaches name other ∧ table.Reaches other name

instance (table : Table) (name other : String) : Decidable (table.Connected name other) :=
  inferInstanceAs (Decidable (table.Reaches name other ∧ table.Reaches other name))

/-- The components part the names. -/
theorem connected_equivalence (table : Table) : Equivalence table.Connected where
  refl _ := ⟨.refl, .refl⟩
  symm h := h.symm
  trans h hnext := ⟨h.1.trans hnext.1, hnext.2.trans h.2⟩

/-- An edge is listed exactly when it is a followed property whose ends lie in one component. -/
theorem mem_backEdges_iff_connected {table : Table} {edge : PropertyEdge} :
    edge ∈ table.backEdges ↔ table.Follows edge ∧ table.Connected edge.schema edge.target := by
  rw [mem_backEdges]
  refine and_congr_right fun hfollows => ?_
  have hforth : table.Reaches edge.schema edge.target := .single ⟨edge.property, hfollows⟩
  exact ⟨fun hback => ⟨hforth, hback⟩, And.right⟩

/-- The names of a table are numbered by their components, as a search for the components numbers
them: each name has a number, which it shares with the names of its component. -/
structure NumbersComponents (table : Table) (component : String → Option Nat) : Prop where
  numbered : ∀ name ∈ table.names, (component name).isSome
  eq_iff : ∀ name ∈ table.names, ∀ other ∈ table.names,
    component name = component other ↔ table.Connected name other

/-- The listed edges are those whose ends have the same number. -/
theorem NumbersComponents.backEdges_eq {table : Table} {component : String → Option Nat}
    (h : table.NumbersComponents component) :
    table.backEdges = table.edges.filter fun edge =>
      (component edge.schema).isSome ∧ component edge.schema = component edge.target := by
  refine List.filter_congr fun edge hedge => ?_
  have hfollows : table.Follows edge := mem_edges.1 hedge
  obtain ⟨hschema, htarget⟩ := hfollows.mem_names
  have hlisted : edge.closesCycle table.edges ↔ table.Connected edge.schema edge.target := by
    have hmem : edge ∈ table.backEdges ↔ edge.closesCycle table.edges := by
      simp [backEdges, hedge]
    rw [← hmem, mem_backEdges_iff_connected, and_iff_right hfollows]
  rw [Bool.eq_iff_iff, hlisted, decide_eq_true_iff, h.eq_iff _ hschema _ htarget,
    and_iff_right (h.numbered _ hschema)]

/-- The position of the first name in the component of a name. -/
def componentPosition (table : Table) (name : String) : Nat :=
  table.names.findIdx fun other => table.Connected name other

/-- At this position there is a name of the component. -/
theorem connected_componentPosition {table : Table} {name : String} (hname : name ∈ table.names) :
    ∃ hlt : table.componentPosition name < table.names.length,
      table.Connected name table.names[table.componentPosition name] := by
  have hlt : table.componentPosition name < table.names.length :=
    List.findIdx_lt_length_of_exists
      ⟨name, hname, by simpa using table.connected_equivalence.refl name⟩
  exact ⟨hlt, of_decide_eq_true (List.findIdx_getElem (w := hlt))⟩

/-- In every table these positions number the components. -/
theorem numbersComponents_componentPosition (table : Table) :
    table.NumbersComponents fun name => some (table.componentPosition name) := by
  have hconnected := table.connected_equivalence
  refine ⟨fun _ _ => rfl, fun name hname other hother => ?_⟩
  rw [Option.some.injEq]
  constructor
  · intro heq
    obtain ⟨_, hfirst⟩ := connected_componentPosition hname
    obtain ⟨_, hsecond⟩ := connected_componentPosition hother
    simp only [heq] at hfirst
    exact hconnected.trans hfirst (hconnected.symm hsecond)
  · intro hsame
    have hpredicate (next : String) : table.Connected name next ↔ table.Connected other next :=
      ⟨hconnected.trans (hconnected.symm hsame), hconnected.trans hsame⟩
    simp only [componentPosition, hpredicate]

/-- The edges of an entry stand in the order of its properties. -/
theorem edgesOf_places_sublist (table : Table) (name : String) (schema : Schema) :
    ((table.edgesOf name schema).map PropertyEdge.place).Sublist
      (schema.propertyNames.map (name, ·)) := by
  cases schema with
  | object shape =>
      simp only [edgesOf, Schema.propertyNames, Keyed.keys]
      induction shape.properties with
      | nil => exact .slnil
      | cons entry rest ih =>
          obtain ⟨property, use⟩ := entry
          cases htarget : table.followedTarget? use with
          | none => simpa [htarget] using ih.cons (name, property)
          | some target => simpa [htarget, PropertyEdge.place] using ih.cons_cons (name, property)
  | _ => exact List.nil_sublist _

/-- The listed edges stand in the order of the table and of the properties of its objects. -/
theorem backEdges_places_sublist (table : Table) :
    (table.backEdges.map PropertyEdge.place).Sublist table.places := by
  have hedges : (table.edges.map PropertyEdge.place).Sublist table.places := by
    rw [edges, List.map_flatMap]
    exact .flatMap_right _ fun entry _ => edgesOf_places_sublist table entry.1 entry.2
  exact (List.filter_sublist.map _).trans hedges

/-- Where the properties of each object are distinct, so are the properties of the table. -/
theorem PropertiesDistinct.nodup_places {table : Table} (h : table.PropertiesDistinct) :
    table.places.Nodup := by
  refine List.nodup_flatMap.2 ⟨fun entry hentry => ?_, ?_⟩
  · exact (h entry hentry).map fun _ _ heq => (Prod.mk.inj heq).2
  · have hnames : table.entries.Pairwise fun entry other => entry.1 ≠ other.1 :=
      List.pairwise_map.1 table.distinct
    refine hnames.imp fun hne => ?_
    rintro ⟨name, property⟩ hfirst hsecond
    simp only [List.mem_map, Prod.mk.injEq] at hfirst hsecond
    obtain ⟨_, _, hfirst, _⟩ := hfirst
    obtain ⟨_, _, hsecond, _⟩ := hsecond
    exact hne (hfirst.trans hsecond.symm)

/-- The listed edges are exactly the followed properties from whose target their own object can be
reached. They stand in the order of the table and of its properties, and each property is listed
once. -/
theorem backEdges_exact (table : Table) :
    (∀ edge, edge ∈ table.backEdges ↔
      table.Follows edge ∧ table.Reaches edge.target edge.schema) ∧
    (table.backEdges.map PropertyEdge.place).Sublist table.places ∧
    (table.PropertiesDistinct → (table.backEdges.map PropertyEdge.place).Nodup) :=
  ⟨fun _ => mem_backEdges, table.backEdges_places_sublist,
    fun hdistinct => hdistinct.nodup_places.sublist table.backEdges_places_sublist⟩

/-- A tree whose children are trees, named by an alias. -/
def grove : Table :=
  ⟨[("Tree", .object ⟨[("label", .inline (.scalar (.bare .string))),
      ("kids", .inline (.array (.named "#/components/schemas/Forest")))], [], [], Docs.none⟩),
    ("Forest", .alias "#/components/schemas/Tree")], by decide⟩

/-- The children of a tree close a cycle, through the alias and the list. -/
theorem grove_backEdges :
    grove.PropertiesDistinct ∧ (grove.backEdges.map PropertyEdge.place).Nodup ∧
      ⟨"Tree", "kids", "Tree"⟩ ∈ grove.backEdges := by
  have hdistinct : grove.PropertiesDistinct := by decide
  have hstep : grove.AliasStep "Forest" "Tree" := ⟨_, rfl, by decide +kernel⟩
  have hleads : grove.LeadsTo "#/components/schemas/Forest" "Tree" _ :=
    ⟨"Forest", by decide +kernel, .single hstep, rfl, fun _ heq => nomatch heq⟩
  have hfollows : grove.Follows ⟨"Tree", "kids", "Tree"⟩ :=
    ⟨_, _, _, _, rfl, .tail _ (.head _), .items (.reference _), hleads⟩
  obtain ⟨hexact, _, hnodup⟩ := backEdges_exact grove
  exact ⟨hdistinct, hnodup hdistinct, (hexact _).2 ⟨hfollows, .refl⟩⟩

end Table

end SchemaGraph
