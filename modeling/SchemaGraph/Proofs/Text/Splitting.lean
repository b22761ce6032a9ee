import Mathlib.Data.List.Basic

/-!
# Splitting at separators

The parts of a text that is split at some characters have none of these characters, and nothing that
the text does not have (`of_mem_splitOnP`). Parts without separators that are joined by one come out
of the split again (`splitOnP_intercalate`).
-/

namespace SchemaGraph.Text

variable {separates : Char → Bool} {separator : Char} {text part : List Char}
  {parts : List (List Char)}

/-- The characters of a part are characters of the text, and no separators. -/
theorem of_mem_splitOnP (h : part ∈ text.splitOnP separates) :
    ∀ c ∈ part, c ∈ text ∧ separates c = false := by
  induction text generalizing part with
  | nil =>
      rw [List.splitOnP_nil, List.mem_singleton] at h
      subst h
      exact fun c hc => absurd hc List.not_mem_nil
  | cons a text ih =>
      have hlater : ∀ later ∈ text.splitOnP separates, ∀ c ∈ later,
          c ∈ a :: text ∧ separates c = false := by
        intro later hlater c hc
        obtain ⟨hmem, hkept⟩ := ih hlater c hc
        exact ⟨List.mem_cons_of_mem a hmem, hkept⟩
      rw [List.splitOnP_cons_eq_if_modifyHead] at h
      split at h
      · rcases List.mem_cons.1 h with rfl | hmem
        · exact fun c hc => absurd hc List.not_mem_nil
        · exact hlater part hmem
      · next ha =>
          cases hsplit : text.splitOnP separates with
          | nil => exact absurd hsplit (List.splitOnP_ne_nil _ _)
          | cons first more =>
              rw [hsplit, List.modifyHead_cons] at h
              rw [hsplit] at hlater
              rcases List.mem_cons.1 h with rfl | hmem
              · exact List.forall_mem_cons.2 ⟨⟨List.mem_cons_self, Bool.eq_false_iff.2 ha⟩,
                  hlater first List.mem_cons_self⟩
              · exact hlater part (List.mem_cons_of_mem _ hmem)

/-- Parts that are joined by a separator come out of the split. -/
theorem splitOnP_intercalate (hseparator : separates separator) (hne : parts ≠ [])
    (hparts : ∀ part ∈ parts, ∀ c ∈ part, separates c = false) :
    ([separator].intercalate parts).splitOnP separates = parts := by
  induction parts with
  | nil => exact absurd rfl hne
  | cons first later ih =>
      obtain ⟨hfirst, hlater⟩ := List.forall_mem_cons.1 hparts
      cases later with
      | nil => rw [List.intercalate_singleton, List.splitOnP_eq_singleton hfirst]
      | cons second later =>
          rw [List.intercalate_cons_cons, List.append_assoc]
          have hrest := ih (List.cons_ne_nil _ _) hlater
          refine (List.splitOnP_append_cons_of_forall_mem hfirst separator hseparator _).trans ?_
          exact congrArg (first :: ·) hrest

end SchemaGraph.Text
