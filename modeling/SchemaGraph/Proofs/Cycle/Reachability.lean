import Mathlib.Logic.Relation
import SchemaGraph.Graph.Cycle

/-!
# Reachability over edges

`mem_reachableFrom_iff` says that the search finds the names that chains of edges lead to, although
it uses every edge only once. It rests on a step: once the targets of the edges at the found names
are found as well, these edges lead nowhere new and can be left out.
-/

namespace SchemaGraph

/-- An edge of the list leads from `name` to `next`. -/
def EdgeStep (edges : List PropertyEdge) (name next : String) : Prop :=
  ∃ edge ∈ edges, edge.schema = name ∧ edge.target = next

/-- Some found name leads to `name`. -/
def ReachedFrom (edges : List PropertyEdge) (found : List String) (name : String) : Prop :=
  ∃ start ∈ found, Relation.ReflTransGen (EdgeStep edges) start name

/-- The edges at the given names are those edges of the list that start at one of them. -/
theorem mem_edgesFrom {names : List String} {edges : List PropertyEdge} {edge : PropertyEdge} :
    edge ∈ edgesFrom names edges ↔ edge ∈ edges ∧ edge.schema ∈ names := by
  simp [edgesFrom]

/-- The other edges are those that start at no given name. -/
theorem mem_edgesElsewhere {names : List String} {edges : List PropertyEdge}
    {edge : PropertyEdge} :
    edge ∈ edgesElsewhere names edges ↔ edge ∈ edges ∧ edge.schema ∉ names := by
  simp [edgesElsewhere]

/-- Where no edge starts at a found name, nothing else is reached. -/
theorem reachedFrom_iff_of_edgesFrom_eq_nil {edges : List PropertyEdge} {found : List String}
    (h : edgesFrom found edges = []) {name : String} :
    ReachedFrom edges found name ↔ name ∈ found := by
  constructor
  · rintro ⟨start, hstart, hpath⟩
    induction hpath with
    | refl => exact hstart
    | tail _ hstep ih =>
        obtain ⟨edge, hedge, rfl, rfl⟩ := hstep
        have hmem : edge ∈ edgesFrom found edges := mem_edgesFrom.2 ⟨hedge, ih⟩
        rw [h] at hmem
        cases hmem
  · intro hname
    exact ⟨name, hname, .refl⟩

/-- Taking the edges at the found names and leaving them out changes nothing in what is reached. -/
theorem reachedFrom_step_iff {edges : List PropertyEdge} {found : List String} {name : String} :
    ReachedFrom (edgesElsewhere found edges)
        (found ++ (edgesFrom found edges).map PropertyEdge.target) name ↔
      ReachedFrom edges found name := by
  constructor
  · rintro ⟨start, hstart, hpath⟩
    have hfewer : EdgeStep (edgesElsewhere found edges) ≤ EdgeStep edges := by
      rintro before after ⟨edge, hedge, hends⟩
      exact ⟨edge, (mem_edgesElsewhere.1 hedge).1, hends⟩
    have hpath := Relation.ReflTransGen.mono hfewer _ _ hpath
    rcases List.mem_append.1 hstart with hfound | htarget
    · exact ⟨start, hfound, hpath⟩
    · obtain ⟨edge, hedge, rfl⟩ := List.mem_map.1 htarget
      obtain ⟨hedge, hschema⟩ := mem_edgesFrom.1 hedge
      exact ⟨edge.schema, hschema, hpath.head ⟨edge, hedge, rfl, rfl⟩⟩
  · rintro ⟨start, hstart, hpath⟩
    induction hpath with
    | refl => exact ⟨start, List.mem_append_left _ hstart, .refl⟩
    | tail _ hstep ih =>
        obtain ⟨edge, hedge, rfl, rfl⟩ := hstep
        by_cases hschema : edge.schema ∈ found
        · -- The edge starts at a found name, so its target is among those now found.
          have htarget : edge.target ∈ (edgesFrom found edges).map PropertyEdge.target :=
            List.mem_map.2 ⟨edge, mem_edgesFrom.2 ⟨hedge, hschema⟩, rfl⟩
          exact ⟨edge.target, List.mem_append_right _ htarget, .refl⟩
        · obtain ⟨origin, horigin, hpath⟩ := ih
          exact ⟨origin, horigin,
            hpath.tail ⟨edge, mem_edgesElsewhere.2 ⟨hedge, hschema⟩, rfl, rfl⟩⟩

/-- The search finds exactly the names that chains of edges lead to. -/
theorem mem_reachableFrom_iff {edges : List PropertyEdge} {found : List String} {name : String} :
    name ∈ reachableFrom edges found ↔ ReachedFrom edges found name := by
  fun_induction reachableFrom edges found with
  | case1 edges found hnone => exact (reachedFrom_iff_of_edgesFrom_eq_nil hnone).symm
  | case2 edges found _ ih => exact ih.trans reachedFrom_step_iff

/-- An edge closes a cycle exactly when edges lead from its target back to its object. -/
theorem closesCycle_iff {edges : List PropertyEdge} {edge : PropertyEdge} :
    edge.closesCycle edges ↔ Relation.ReflTransGen (EdgeStep edges) edge.target edge.schema := by
  simp [PropertyEdge.closesCycle, mem_reachableFrom_iff, ReachedFrom]

end SchemaGraph
