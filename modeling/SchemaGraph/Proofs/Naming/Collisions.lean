import Mathlib.Data.List.Nodup
import Mathlib.Data.List.Perm.Subperm
import SchemaGraph.Naming.Distinct

/-!
# Names that are taken

A name that is taken gets the first later number that makes it free. There is one, since the numbers
that are tried give more names than are taken (`exists_freeNumber_eq`). So each name of a collection
that is made distinct is one of the given names, or a number behind another name of the collection
(`distinct_cases`).
-/

namespace SchemaGraph.Naming

variable {taken names : List String} {counts : Keyed Nat} {base name : String}

/-- A number stands behind a name in its decimal digits. -/
theorem numbered_eq_append (base : String) (number : Nat) :
    numbered base number = base ++ String.ofList (Nat.toDigits 10 number) := by
  rw [numbered, Nat.toString_eq_repr, Nat.repr_eq_ofList_toDigits]

/-- Different numbers give different names. -/
theorem numbered_injective (base : String) : Function.Injective (numbered base) := by
  intro number other heq
  have hdigits : toString number = toString other := (String.append_right_inj base).1 heq
  -- Reading the digits gives the number back.
  have hread := congrArg (fun digits : String => Nat.ofDigitChars 10 digits.toList 0) hdigits
  simpa using hread

/-- One of the numbers that are tried makes the name free, as they give more names than are
taken. -/
theorem exists_free_offset (taken : List String) (base : String) (count : Nat) :
    ∃ offset ∈ List.range (taken.length + 1), numbered base (count + 1 + offset) ∉ taken := by
  by_contra hnone
  push Not at hnone
  have hdistinct : ((List.range (taken.length + 1)).map fun offset =>
      numbered base (count + 1 + offset)).Nodup := by
    refine List.nodup_range.map fun offset other heq => ?_
    have hsum := numbered_injective base heq
    omega
  have hsubset : ((List.range (taken.length + 1)).map fun offset =>
      numbered base (count + 1 + offset)) ⊆ taken := by
    intro tried htried
    obtain ⟨offset, hoffset, rfl⟩ := List.mem_map.1 htried
    exact hnone offset hoffset
  have hlength := (hdistinct.subperm hsubset).length_le
  rw [List.length_map, List.length_range] at hlength
  omega

/-- The number that is found is the first one after `count` that makes the name free. -/
theorem exists_freeNumber_eq (taken : List String) (base : String) (count : Nat) :
    ∃ offset, freeNumber taken base count = count + 1 + offset ∧
      numbered base (count + 1 + offset) ∉ taken ∧
      ∀ earlier < offset, numbered base (count + 1 + earlier) ∈ taken := by
  unfold freeNumber
  cases hfind : (List.range (taken.length + 1)).find? fun offset =>
      numbered base (count + 1 + offset) ∉ taken with
  | none =>
      obtain ⟨offset, hoffset, hfree⟩ := exists_free_offset taken base count
      exact absurd (decide_eq_true hfree) (List.find?_eq_none.1 hfind offset hoffset)
  | some offset =>
      obtain ⟨hfree, _, hearlier⟩ := List.find?_range_eq_some.1 hfind
      exact ⟨offset, rfl, by simpa using hfree, by simpa using hearlier⟩

/-- The number that is found makes the name free, and it is a later one. -/
theorem freeNumber_spec (taken : List String) (base : String) (count : Nat) :
    numbered base (freeNumber taken base count) ∉ taken ∧
      count < freeNumber taken base count := by
  obtain ⟨offset, heq, hfree, _⟩ := exists_freeNumber_eq taken base count
  rw [heq]
  exact ⟨hfree, by omega⟩

/-- There are as many names after making them distinct as before. -/
theorem length_distinctFrom (taken : List String) (counts : Keyed Nat) (names : List String) :
    (distinctFrom taken counts names).length = names.length := by
  induction names generalizing taken counts with
  | nil => rfl
  | cons base rest ih =>
      rw [distinctFrom]
      split
      · rw [List.length_cons, List.length_cons, ih]
      · rw [List.length_cons, List.length_cons, ih]

/-- Numbers are counted from one, so that the first number that is given is two. -/
def CountsFromOne (counts : Keyed Nat) : Prop :=
  ∀ base, 1 ≤ (Keyed.get? counts base).getD 1

/-- Nothing is counted at first. -/
theorem countsFromOne_nil : CountsFromOne [] := by
  intro base
  show 1 ≤ 1
  omega

/-- Later numbers may be counted from. -/
theorem CountsFromOne.put (h : CountsFromOne counts) {number : Nat} (hnumber : 1 ≤ number) :
    CountsFromOne (Keyed.put counts base number) := by
  intro other
  rw [Keyed.get?_put]
  split
  · exact hnumber
  · exact h other

/-- A name that is made distinct is a given one, or a number from two on behind a name that is taken
or comes out as well. -/
theorem distinctFrom_cases (hcounts : CountsFromOne counts)
    (h : name ∈ distinctFrom taken counts names) :
    name ∈ names ∨ ∃ base number, base ∈ taken ++ distinctFrom taken counts names ∧
      2 ≤ number ∧ name = numbered base number := by
  induction names generalizing taken counts with
  | nil => cases h
  | cons base rest ih =>
      rw [distinctFrom] at h ⊢
      by_cases htaken : base ∈ taken
      · simp only [htaken, if_true] at h ⊢
        have hlater := (freeNumber_spec taken base ((Keyed.get? counts base).getD 1)).2
        have htwo := Nat.lt_of_le_of_lt (hcounts base) hlater
        rcases List.mem_cons.1 h with rfl | hrest
        · exact .inr ⟨base, _, List.mem_append_left _ htaken, htwo, rfl⟩
        · rcases ih (hcounts.put (Nat.le_of_lt htwo)) hrest with
            hname | ⟨found, number, hfound, heq⟩
          · exact .inl (List.mem_cons_of_mem _ hname)
          · exact .inr ⟨found, number, by simpa [or_left_comm] using hfound, heq⟩
      · simp only [htaken, if_false] at h ⊢
        rcases List.mem_cons.1 h with rfl | hrest
        · exact .inl List.mem_cons_self
        · rcases ih hcounts hrest with hname | ⟨found, number, hfound, heq⟩
          · exact .inl (List.mem_cons_of_mem _ hname)
          · exact .inr ⟨found, number, by simpa [or_left_comm] using hfound, heq⟩

/-- A name of a collection that is made distinct is a given one, or a number from two on behind
another name of the collection. -/
theorem distinct_cases (h : name ∈ distinct names) :
    name ∈ names ∨ ∃ base ∈ distinct names, ∃ number, 2 ≤ number ∧ name = numbered base number := by
  rcases distinctFrom_cases countsFromOne_nil h with hname | ⟨base, number, hbase, heq⟩
  · exact .inl hname
  · exact .inr ⟨base, hbase, number, heq⟩

end SchemaGraph.Naming
