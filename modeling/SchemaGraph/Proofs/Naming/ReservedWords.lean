import SchemaGraph.Naming.Identifier
import SchemaGraph.Proofs.Naming.Collisions

/-!
# Reserved words that come out as identifiers

An identifier that is a reserved word is followed by an underscore. The reserved words are compared
with nothing that is made later: neither with the word and its underscore, nor with the number that
follows an identifier that is taken. Two forms of the identifiers of literals are not compared with
them at all. `Namer.missedName_of_mem` and `Namer.missedLiteral_of_mem` say that a reserved word
comes out in these ways only. They all end in a way of their own, so that no built-in word and no
other ordinary one comes out (`ReservedWords.MissedLiteral.not_isOrdinary`).
-/

namespace SchemaGraph

namespace ReservedWords

/-- How a reserved word comes out among the identifiers of properties, parameters or fields: as
another reserved word and its underscore, or as another identifier and its number. -/
inductive MissedName (reserved : ReservedWords) (identifiers : List String) : String → Prop where
  | escaped {word : String} (hword : reserved.contains word = true) :
      MissedName reserved identifiers (word.push '_')
  | numbered {base : String} {number : Nat} (hbase : base ∈ identifiers) (hnumber : 2 ≤ number) :
      MissedName reserved identifiers (Naming.numbered base number)

/-- How a reserved word comes out among the identifiers of literals: like that of a property, or as
the identifier of a literal without words or of a number. -/
inductive MissedLiteral (reserved : ReservedWords) (identifiers : List String) : String → Prop where
  | empty : MissedLiteral reserved identifiers "empty"
  | number {digits : List Char} (hdigits : ∀ c ∈ digits, c.isDigit = true) :
      MissedLiteral reserved identifiers ("value" ++ String.ofList digits)
  | name {identifier : String} (h : reserved.MissedName identifiers identifier) :
      MissedLiteral reserved identifiers identifier

/-- Whether a character ends a word in the way of an identifier that was changed. -/
def isMark (c : Char) : Bool :=
  c.isDigit || c = '_'

/-- Whether a word has none of the forms in which a reserved word can come out. -/
def isOrdinary (word : String) : Bool :=
  word ≠ "empty" && word ≠ "value" && !word.toList.getLast?.any isMark

variable {reserved : ReservedWords} {identifiers more : List String} {word identifier : String}

/-- A word that ends in a mark is not an ordinary one. -/
theorem not_isOrdinary_of_getLast? {c : Char} (hlast : word.toList.getLast? = some c)
    (hmark : isMark c = true) : ¬ isOrdinary word := by
  simp [isOrdinary, hlast, hmark]

/-- A text of ASCII digits ends in a mark if it is not empty, and so does what it follows. -/
theorem not_isOrdinary_append {digits : List Char} (hne : digits ≠ [])
    (hdigits : ∀ c ∈ digits, c.isDigit = true) : ¬ isOrdinary (word ++ String.ofList digits) := by
  have hlast : (word ++ String.ofList digits).toList.getLast? = some (digits.getLast hne) := by
    rw [String.toList_append, String.toList_ofList, List.getLast?_append_of_ne_nil _ hne,
      List.getLast?_eq_some_getLast hne]
  have hdigit := hdigits _ (List.getLast_mem hne)
  exact not_isOrdinary_of_getLast? hlast (by simp [isMark, hdigit])

/-- What comes out among the identifiers of properties is not an ordinary word. -/
theorem MissedName.not_isOrdinary (h : reserved.MissedName identifiers identifier) :
    ¬ isOrdinary identifier := by
  cases h with
  | @escaped word hword =>
      have hlast : (word.push '_').toList.getLast? = some '_' := by simp
      exact not_isOrdinary_of_getLast? hlast rfl
  | @numbered base number hbase hnumber =>
      rw [Naming.numbered_eq_append]
      refine not_isOrdinary_append Nat.toDigits_ne_nil fun c hc => ?_
      exact Nat.isDigit_of_mem_toDigits (by omega) (by omega) hc

/-- What comes out among the identifiers of literals is not an ordinary word. -/
theorem MissedLiteral.not_isOrdinary (h : reserved.MissedLiteral identifiers identifier) :
    ¬ isOrdinary identifier := by
  cases h with
  | empty => decide
  | @number digits hdigits =>
      by_cases hne : digits = []
      · subst hne
        decide
      · exact not_isOrdinary_append hne hdigits
  | name h => exact h.not_isOrdinary

/-- The built-in words are ordinary ones. -/
theorem isOrdinary_of_mem_builtin (h : word ∈ builtin.words) : isOrdinary word := by
  have hall : builtin.words.all isOrdinary = true := by decide +kernel
  exact List.all_eq_true.1 hall word h

/-- If all words that are added are ordinary ones, then all reserved words are. -/
theorem isOrdinary_of_contains_extend (hmore : ∀ word ∈ more, isOrdinary word)
    (h : (builtin.extend more).contains word) : isOrdinary word := by
  have hmem : word ∈ builtin.words ++ more := List.contains_iff_mem.1 h
  rcases List.mem_append.1 hmem with hbuiltin | hadded
  · exact isOrdinary_of_mem_builtin hbuiltin
  · exact hmore word hadded

end ReservedWords

namespace Namer

open ReservedWords

variable {names : List String} {identifier : String}

/-- An identifier is compared with the reserved words once. -/
theorem unreserved_cases (namer : Namer) (identifier : String) :
    ¬ namer.reserved.contains (namer.unreserved identifier) ∨
      ∃ word, namer.reserved.contains word ∧ namer.unreserved identifier = word.push '_' := by
  unfold unreserved
  split
  · next hcontains => exact .inr ⟨identifier, hcontains, rfl⟩
  · next hcontains => exact .inl hcontains

/-- The identifier of a property is compared with the reserved words. -/
theorem propertyIdentifier_cases (namer : Namer) (name : String) :
    ¬ namer.reserved.contains (namer.propertyIdentifier name) ∨
      ∃ word, namer.reserved.contains word ∧ namer.propertyIdentifier name = word.push '_' :=
  namer.unreserved_cases _

/-- The identifier of a literal is compared with the reserved words unless the literal has no words
or is a number. -/
theorem enumIdentifier_cases (namer : Namer) (literal : String) :
    namer.enumIdentifier literal = "empty" ∨
    (∃ digits : List Char, (∀ c ∈ digits, c.isDigit = true) ∧
      namer.enumIdentifier literal = "value" ++ String.ofList digits) ∨
    ¬ namer.reserved.contains (namer.enumIdentifier literal) ∨
      ∃ word, namer.reserved.contains word ∧ namer.enumIdentifier literal = word.push '_' := by
  simp only [enumIdentifier]
  split
  · exact .inl rfl
  · split
    · refine .inr (.inl ⟨_, fun c hc => ?_, rfl⟩)
      exact (List.mem_filter.1 hc).2
    · split
      · exact .inl rfl
      · exact .inr (.inr (namer.unreserved_cases _))

/-- A reserved word among the identifiers of properties came out as described. -/
theorem missedName_of_mem (namer : Namer)
    (h : identifier ∈ Naming.distinct (names.map namer.propertyIdentifier))
    (hreserved : namer.reserved.contains identifier) :
    namer.reserved.MissedName
      (Naming.distinct (names.map namer.propertyIdentifier)) identifier := by
  rcases Naming.distinct_cases h with hgiven | ⟨base, hbase, number, hnumber, rfl⟩
  · obtain ⟨name, _, rfl⟩ := List.mem_map.1 hgiven
    rcases namer.propertyIdentifier_cases name with hfree | ⟨word, hword, heq⟩
    · exact absurd hreserved hfree
    · rw [heq]
      exact .escaped hword
  · exact .numbered hbase hnumber

/-- A reserved word among the identifiers of literals came out as described. -/
theorem missedLiteral_of_mem (namer : Namer)
    (h : identifier ∈ Naming.distinct (names.map namer.enumIdentifier))
    (hreserved : namer.reserved.contains identifier) :
    namer.reserved.MissedLiteral (Naming.distinct (names.map namer.enumIdentifier)) identifier := by
  rcases Naming.distinct_cases h with hgiven | ⟨base, hbase, number, hnumber, rfl⟩
  · obtain ⟨literal, _, rfl⟩ := List.mem_map.1 hgiven
    rcases namer.enumIdentifier_cases literal with
      heq | ⟨digits, hdigits, heq⟩ | hfree | ⟨word, hword, heq⟩
    · rw [heq]
      exact .empty
    · rw [heq]
      exact .number hdigits
    · exact absurd hreserved hfree
    · rw [heq]
      exact .name (.escaped hword)
  · exact .name (.numbered hbase hnumber)

end Namer

end SchemaGraph
