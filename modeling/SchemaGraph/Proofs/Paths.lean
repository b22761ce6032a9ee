import Mathlib.Data.List.Chain
import Mathlib.Data.List.Nodup
import Mathlib.Logic.Relation
import Mathlib.Order.WellFounded

/-!
# Paths over finitely many steps

What can be reached along steps can be reached along a chain that meets nothing twice. Where no
element leads back to itself in any number of steps, every chain is of this kind, and no sequence of
steps into a list goes on for ever.
-/

namespace SchemaGraph

variable {α : Type} {step : α → α → Prop}

/-- What can be reached is the end of a chain without repetition. -/
theorem exists_nodup_chain {start finish : α} (h : Relation.ReflTransGen step start finish) :
    ∃ rest, (start :: rest).IsChain step ∧ (start :: rest).Nodup ∧
      (start :: rest).getLast? = some finish := by
  induction h using Relation.ReflTransGen.head_induction_on with
  | refl => exact ⟨[], .singleton _, List.nodup_singleton _, rfl⟩
  | @head start next hstep _ ih =>
      obtain ⟨rest, hchain, hnodup, hlast⟩ := ih
      by_cases hmem : start ∈ next :: rest
      · -- The chain comes back to its start: what follows the return is a chain of its own.
        obtain ⟨before, after, hsplit⟩ := List.append_of_mem hmem
        rw [hsplit] at hchain hnodup hlast
        refine ⟨after, hchain.right_of_append, hnodup.of_append_right, ?_⟩
        rwa [List.getLast?_append_of_ne_nil _ (List.cons_ne_nil _ _)] at hlast
      · refine ⟨next :: rest, hchain.cons_cons hstep, hnodup.cons hmem, ?_⟩
        rwa [List.getLast?_cons_cons]

/-- The end of a chain can be reached from everything on it. -/
theorem reachable_last_of_mem_chain {chain : List α} {element finish : α}
    (hchain : chain.IsChain step) (hlast : chain.getLast? = some finish)
    (hmem : element ∈ chain) : Relation.ReflTransGen step element finish := by
  obtain ⟨before, after, rfl⟩ := List.append_of_mem hmem
  rw [List.getLast?_append_of_ne_nil _ (List.cons_ne_nil _ _)] at hlast
  have hfinish := (List.getLast_eq_iff_getLast?_eq_some (List.cons_ne_nil element after)).2 hlast
  exact List.relationReflTransGen_of_exists_isChain_cons after hchain.right_of_append hfinish

section Deterministic

/-- Nothing can be reached from an element without a step. -/
theorem eq_of_reaches_of_end {finish other : α} (hend : ∀ next, ¬ step finish next)
    (h : Relation.ReflTransGen step finish other) : other = finish := by
  rcases Relation.ReflTransGen.cases_head h with heq | ⟨next, hstep, _⟩
  · exact heq.symm
  · exact absurd hstep (hend next)

/-- Where every element has one step at most, two ends of the same chain are one. -/
theorem end_unique (hunique : Relator.RightUnique step) {start finish other : α}
    (h : Relation.ReflTransGen step start finish) (hend : ∀ next, ¬ step finish next)
    (h' : Relation.ReflTransGen step start other) (hend' : ∀ next, ¬ step other next) :
    finish = other := by
  rcases Relation.ReflTransGen.total_of_right_unique hunique h h' with hreach | hreach
  · exact (eq_of_reaches_of_end hend hreach).symm
  · exact eq_of_reaches_of_end hend' hreach

/-- Where every element has one step at most, an element from which an end can be reached does not
lead back to itself. -/
theorem not_returns_of_reaches_end (hunique : Relator.RightUnique step) {start finish : α}
    (h : Relation.ReflTransGen step start finish) (hend : ∀ next, ¬ step finish next) :
    ¬ Relation.TransGen step start start := by
  induction h using Relation.ReflTransGen.head_induction_on with
  | refl =>
      intro hcycle
      obtain ⟨next, hstep, _⟩ := Relation.TransGen.head'_iff.1 hcycle
      exact hend next hstep
  | @head start next hstep _ ih =>
      -- The chain has to take the only step there is, so that the cycle goes through `next` too.
      intro hcycle
      obtain ⟨other, hother, hback⟩ := Relation.TransGen.head'_iff.1 hcycle
      obtain rfl := hunique hstep hother
      exact ih (.tail' hback hstep)

/-- Where every element has one step at most, a chain that comes to an end does not come back. -/
theorem not_returns_on_chain (hunique : Relator.RightUnique step) {start finish met : α}
    (h : Relation.ReflTransGen step start finish) (hend : ∀ next, ¬ step finish next)
    (hmet : Relation.ReflTransGen step start met) : ¬ Relation.TransGen step met met := by
  rcases Relation.ReflTransGen.total_of_right_unique hunique h hmet with hreach | hreach
  · obtain rfl := eq_of_reaches_of_end hend hreach
    exact not_returns_of_reaches_end hunique hreach hend
  · exact not_returns_of_reaches_end hunique hreach hend

end Deterministic

/-- Where steps never lead back to their start, a chain repeats nothing. -/
theorem nodup_of_isChain {chain : List α}
    (hreturn : ∀ element, ¬ Relation.TransGen step element element)
    (hchain : chain.IsChain step) : chain.Nodup := by
  have hpairs : chain.Pairwise (Relation.TransGen step) :=
    (hchain.imp fun _ _ hstep => Relation.TransGen.single hstep).pairwise
  refine hpairs.imp ?_
  rintro first _ hpath rfl
  exact hreturn first hpath

/-- A test that is passed by some element more of a list passes more elements of it. -/
theorem length_filter_lt {list : List α} {narrow wide : α → Bool} {element : α}
    (himp : ∀ other, narrow other → wide other) (hmem : element ∈ list) (hwide : wide element)
    (hnarrow : ¬ narrow element) : (list.filter narrow).length < (list.filter wide).length := by
  have hsplit : list.filter narrow = (list.filter wide).filter narrow := by
    rw [List.filter_filter]
    refine List.filter_congr fun other _ => ?_
    cases hother : narrow other with
    | false => rfl
    | true => simp [himp other hother]
  rw [hsplit]
  have hmem' := List.mem_filter.2 ⟨hmem, hwide⟩
  exact List.length_filter_lt_length_iff_exists.2 ⟨element, hmem', hnarrow⟩

/-- Steps into a list that never lead back to their start come to an end. -/
theorem wellFounded_of_no_return (list : List α)
    (hlist : ∀ before after, step before after → after ∈ list)
    (hreturn : ∀ element, ¬ Relation.TransGen step element element) :
    WellFounded fun after before => step before after := by
  classical
  -- The measure of an element is the number of elements that steps lead to from it.
  let ahead : α → Nat := fun element =>
    (list.filter fun other => Relation.TransGen step element other).length
  refine Subrelation.wf ?_ (measure ahead).wf
  intro after before hstep
  refine length_filter_lt ?_ (hlist before after hstep) (by simpa using .single hstep)
    (by simpa using hreturn after)
  intro other hother
  simpa using Relation.TransGen.head hstep (by simpa using hother)

end SchemaGraph
