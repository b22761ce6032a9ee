import Mathlib.Data.List.DropRight
import SchemaGraph.Proofs.Document.Texts

/-!
# Redirecting references

When a schema gets another name, the references to it are redirected: those that name it by a local
pointer, with or without the address of the current document. No keyword is touched thereby
(`keepsKeywords_redirect`).
-/

namespace SchemaGraph

namespace Reference

variable {address : Option String} {reference : String}

/-- A reference without a fragment is kept as it is written. -/
theorem localize_of_notMem (h : '#' ∉ reference.toList) :
    localize address reference = reference := by
  have hsplit : splitFragment? reference.toList = none := if_neg (by simpa using h)
  unfold localize
  rw [hsplit]
  cases address <;> rfl

/-- A local pointer is kept as it is written. -/
theorem localize_of_head? (h : reference.toList.head? = some '#') :
    localize address reference = reference := by
  obtain ⟨fragment, hfragment⟩ := List.head?_eq_some_iff.1 h
  have hsplit : splitFragment? reference.toList = some ([], fragment) := by
    rw [hfragment, splitFragment?]
    simp
  unfold localize
  rw [hsplit]
  cases address <;> rfl

/-- A reference is either kept as it is written or becomes a local pointer. -/
theorem localize_eq_self_or (address : Option String) (reference : String) :
    localize address reference = reference ∨
      (localize address reference).toList.head? = some '#' := by
  unfold localize
  split
  · split
    · exact .inr (by simp)
    · exact .inl rfl
  · exact .inl rfl

/-- A reference that has been localized is kept. -/
theorem localize_localize (address : Option String) (reference : String) :
    localize address (localize address reference) = localize address reference := by
  rcases localize_eq_self_or address reference with h | h
  · rw [h, h]
  · exact localize_of_head? h

end Reference

namespace Document

variable {address : Option String} {old new : String}

/-- A reference to what one local pointer names as a reference to what another one does. -/
def redirect (address : Option String) (old new reference : String) : String :=
  if Reference.localize address reference = old then new else reference

/-- A local pointer is no media type. -/
theorem isBinaryMediaType_of_head? {text : String} (h : text.toList.head? = some '#') :
    isBinaryMediaType text = false := by
  obtain ⟨rest, hrest⟩ := List.head?_eq_some_iff.1 h
  have hstart : (text.toList.takeWhile (· ≠ ';')).dropWhile Text.isBlank =
      '#' :: rest.takeWhile (· ≠ ';') := by
    have hblank : Text.isBlank '#' = false := by decide
    rw [hrest, List.takeWhile_cons_of_pos (by decide),
      List.dropWhile_cons_of_neg (by simp [hblank])]
  have hprefix :
      Text.trim (text.toList.takeWhile (· ≠ ';')) <+: '#' :: rest.takeWhile (· ≠ ';') := by
    rw [Text.trim, hstart]
    exact List.rdropWhile_prefix _ _
  unfold isBinaryMediaType
  generalize Text.trim (text.toList.takeWhile (· ≠ ';')) = media at hprefix
  cases media with
  | nil => decide
  | cons first more =>
      obtain ⟨rfl, _⟩ := List.cons_prefix_cons.1 hprefix
      simp [List.isPrefixOf]

/-- Redirecting references touches no keyword. -/
theorem keepsKeywords_redirect (hold : old.toList.head? = some '#')
    (hnew : new.toList.head? = some '#')
    (hmedia : ∀ reference, Reference.localize address reference = old →
      isBinaryMediaType reference = false) : KeepsKeywords address (redirect address old new) := by
  have hkeyword : ∀ word ∈ keywords, '#' ∉ word.toList := by decide
  have hkept {word : String} (hword : word ∈ keywords) : Reference.localize address word ≠ old := by
    rw [Reference.localize_of_notMem (hkeyword word hword)]
    rintro rfl
    exact hkeyword _ hword (List.mem_of_mem_head? hold)
  constructor
  · intro word hword
    exact if_neg (hkept hword)
  · intro text htext
    unfold redirect at htext
    split at htext
    · exact absurd (List.mem_of_mem_head? hnew) (hkeyword new htext)
    · exact htext
  · intro text
    unfold redirect
    split
    · next hlocal => rw [hmedia text hlocal, isBinaryMediaType_of_head? hnew]
    · rfl
  · intro text
    by_cases hlocal : Reference.localize address text = old
    · rw [redirect, if_pos hlocal, hlocal, redirect, if_pos (Reference.localize_of_head? hold),
        Reference.localize_of_head? hnew]
    · rw [redirect, if_neg hlocal, redirect, if_neg (by rwa [Reference.localize_localize])]

end Document

end SchemaGraph
