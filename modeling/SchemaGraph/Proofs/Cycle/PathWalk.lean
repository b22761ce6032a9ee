import SchemaGraph.Proofs.Cycle.BackEdges

/-!
# Walks that keep their path

A walk starts at a name, takes the edges of the object it has come to, and carries the names it has
met. An edge back to one of these names is marked; over any other edge a walk of its own goes on,
with a path that is longer by the target. `Table.walkMarks` gathers the marks of the walks from all
names. It can take exponential time, but it is the plain rule: `Table.walks_mark_backEdges` says
that it marks the properties of the listed edges and no others.
-/

namespace SchemaGraph

/-- Where a walk is: the name it has come to, and the names it has met up to this one. -/
structure Visit where
  name : String
  path : List String

namespace Visit

/-- A walk that starts at a name. -/
def start (name : String) : Visit := ⟨name, [name]⟩

/-- The walk that goes on to `target`. -/
def onward (visit : Visit) (target : String) : Visit :=
  ⟨target, visit.path ++ [target]⟩

end Visit

namespace Table

/-- The edges of the entry with a name. -/
def edgesAt (table : Table) (name : String) : List PropertyEdge :=
  match table.get? name with
  | some schema => table.edgesOf name schema
  | none => []

/-- The edges of an entry are the edges of the table that start there. -/
theorem mem_edgesAt {table : Table} {name : String} {edge : PropertyEdge} :
    edge ∈ table.edgesAt name ↔ edge ∈ table.edges ∧ edge.schema = name := by
  simp only [edgesAt, edges, List.mem_flatMap, Prod.exists]
  constructor
  · intro h
    split at h
    · next schema hget => exact ⟨⟨name, schema, get?_eq_some_iff.1 hget, h⟩, (mem_edgesOf.1 h).1⟩
    · cases h
  · rintro ⟨⟨other, schema, hentry, hedge⟩, rfl⟩
    obtain rfl : edge.schema = other := (mem_edgesOf.1 hedge).1
    rw [get?_eq_some_iff.2 hentry]
    exact hedge

/-- The target of an edge is a name of the table. -/
theorem target_mem_names {table : Table} {edge : PropertyEdge} (h : edge ∈ table.edges) :
    edge.target ∈ table.names :=
  (mem_edges.1 h).mem_names.2

/-- From `visit` the walk goes on to `next`, over an edge to a name that is not on its path. -/
def GoesOn (table : Table) (next visit : Visit) : Prop :=
  ∃ edge ∈ table.edgesAt visit.name, edge.target ∉ visit.path ∧ next = visit.onward edge.target

/-- The number of names that a walk has not met. -/
def unmet (table : Table) (visit : Visit) : Nat :=
  (table.names.filter fun name => name ∉ visit.path).length

/-- Going on meets a new name of the table. -/
theorem GoesOn.unmet_lt {table : Table} {next visit : Visit} (h : table.GoesOn next visit) :
    table.unmet next < table.unmet visit := by
  obtain ⟨edge, hedge, hnew, rfl⟩ := h
  have htarget := target_mem_names (mem_edgesAt.1 hedge).1
  refine length_filter_lt ?_ htarget (by simpa using hnew) (by simp [Visit.onward])
  intro name hname
  simp only [Visit.onward, List.mem_append, not_or, decide_eq_true_eq] at hname ⊢
  exact hname.1

/-- No walk goes on for ever. -/
theorem goesOn_wellFounded (table : Table) : WellFounded table.GoesOn :=
  Subrelation.wf GoesOn.unmet_lt (measure table.unmet).wf

/-- The marks that a walk makes from where it is. -/
def walk (table : Table) (visit : Visit) : List (String × String) :=
  (table.edgesAt visit.name).attach.flatMap fun ⟨edge, _hedge⟩ =>
    if _h : edge.target ∈ visit.path then [edge.place]
    else table.walk (visit.onward edge.target)
termination_by table.goesOn_wellFounded.wrap visit
decreasing_by exact ⟨edge, _hedge, _h, rfl⟩

/-- The marks of the walks from all names of the table. -/
def walkMarks (table : Table) : List (String × String) :=
  table.names.flatMap fun name => table.walk (.start name)

/-- A walk marks an edge that leads back to its path, and what the walk over another edge marks. -/
theorem mem_walk_iff {table : Table} {visit : Visit} {place : String × String} :
    place ∈ table.walk visit ↔ ∃ edge ∈ table.edgesAt visit.name,
      (edge.target ∈ visit.path ∧ place = edge.place) ∨
      (edge.target ∉ visit.path ∧ place ∈ table.walk (visit.onward edge.target)) := by
  rw [walk]
  simp only [List.mem_flatMap, List.mem_attach, true_and, Subtype.exists]
  refine exists_congr fun edge => ?_
  by_cases hback : edge.target ∈ visit.path <;> simp [hback]

/-- A walk all of whose path leads to where it is marks only edges that close a cycle. -/
theorem walk_sound {table : Table} {visit : Visit} {place : String × String}
    (hpath : ∀ name ∈ visit.path, Relation.ReflTransGen (EdgeStep table.edges) name visit.name)
    (hmark : place ∈ table.walk visit) :
    place ∈ table.backEdges.map PropertyEdge.place := by
  induction visit using table.goesOn_wellFounded.induction with
  | _ visit ih =>
      obtain ⟨edge, hedge, ⟨hback, rfl⟩ | ⟨hnew, hmark⟩⟩ := mem_walk_iff.1 hmark
      · obtain ⟨hedge, hschema⟩ := mem_edgesAt.1 hedge
        have hcloses := closesCycle_iff.2 (hschema ▸ hpath edge.target hback)
        exact List.mem_map.2 ⟨edge, List.mem_filter.2 ⟨hedge, hcloses⟩, rfl⟩
      · refine ih (visit.onward edge.target) ⟨edge, hedge, hnew, rfl⟩ ?_ hmark
        obtain ⟨hedge, hschema⟩ := mem_edgesAt.1 hedge
        intro name hname
        rcases List.mem_append.1 hname with hname | hname
        · exact (hpath name hname).tail ⟨edge, hedge, hschema, rfl⟩
        · obtain rfl := List.mem_singleton.1 hname
          exact .refl

/-- A walk that can go on along new names to the object of an edge, and has met the edge's target,
marks the edge. -/
theorem walk_complete {table : Table} {edge : PropertyEdge} (hedge : edge ∈ table.edges)
    (rest : List String) (visit : Visit)
    (hchain : (visit.name :: rest).IsChain (EdgeStep table.edges))
    (hnodup : rest.Nodup) (hnew : ∀ name ∈ rest, name ∉ visit.path)
    (hlast : (visit.name :: rest).getLast? = some edge.schema)
    (hmet : edge.target ∈ visit.path) : edge.place ∈ table.walk visit := by
  -- The path grows by the names gone through, which is why the chain has to have no repetition.
  induction rest generalizing visit with
  | nil =>
      have hname : visit.name = edge.schema := by simpa using hlast
      exact mem_walk_iff.2 ⟨edge, mem_edgesAt.2 ⟨hedge, hname.symm⟩, .inl ⟨hmet, rfl⟩⟩
  | cons next rest ih =>
      obtain ⟨⟨step, hstep, hschema, rfl⟩, hchain⟩ := List.isChain_cons_cons.1 hchain
      obtain ⟨hfresh, hnodup⟩ := List.nodup_cons.1 hnodup
      have hunmet := hnew step.target List.mem_cons_self
      refine mem_walk_iff.2 ⟨step, mem_edgesAt.2 ⟨hstep, hschema⟩, .inr ⟨hunmet, ?_⟩⟩
      refine ih (visit.onward step.target) hchain hnodup ?_ ?_ (List.mem_append_left _ hmet)
      · intro name hname hpath
        rcases List.mem_append.1 hpath with hpath | hpath
        · exact hnew name (List.mem_cons_of_mem _ hname) hpath
        · exact hfresh (List.mem_singleton.1 hpath ▸ hname)
      · rwa [List.getLast?_cons_cons] at hlast

/-- Every walk comes to an end, and together the walks mark exactly the properties of the listed
edges. -/
theorem walks_mark_backEdges (table : Table) :
    WellFounded table.GoesOn ∧ ∀ place : String × String,
      place ∈ table.backEdges.map PropertyEdge.place ↔ place ∈ table.walkMarks := by
  refine ⟨table.goesOn_wellFounded, fun place => ⟨fun hplace => ?_, fun hplace => ?_⟩⟩
  · obtain ⟨edge, hback, rfl⟩ := List.mem_map.1 hplace
    obtain ⟨hedge, hcloses⟩ := List.mem_filter.1 hback
    -- The walk from the target goes straight to the object and finds the target on its path.
    obtain ⟨rest, hchain, hnodup, hlast⟩ := exists_nodup_chain (closesCycle_iff.1 hcloses)
    obtain ⟨hnew, hnodup⟩ := List.nodup_cons.1 hnodup
    refine List.mem_flatMap.2 ⟨edge.target, target_mem_names hedge, ?_⟩
    refine walk_complete hedge rest _ hchain hnodup ?_ hlast List.mem_cons_self
    intro name hname hmet
    exact hnew (List.mem_singleton.1 hmet ▸ hname)
  · obtain ⟨name, _, hmark⟩ := List.mem_flatMap.1 hplace
    refine walk_sound ?_ hmark
    intro met hmet
    obtain rfl := List.mem_singleton.1 hmet
    exact .refl

end Table

end SchemaGraph
