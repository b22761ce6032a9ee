import SchemaGraph.Proofs.Naming.Forms
import SchemaGraph.Proofs.Naming.Repetitions
import SchemaGraph.Proofs.Naming.Words

/-!
# The forms of derived names

Whatever the name of a schema, property or literal holds, what is derived from it consists of ASCII
letters and digits, starts with a letter of the right case, and ends in an underscore when it is a
reserved word (`Namer.propertyIdentifier_mem`, `Namer.enumIdentifier_mem`, `Namer.className_mem`,
`Namer.fileName_mem`). A number that makes a name distinct comes after that
(`distinct_mem_identifierForm`).
-/

namespace SchemaGraph

namespace Naming

variable {first : Char → Bool} {start marked text word : List Char} {texts : List (List Char)}
  {c : Char}

/-- A letter or digit that is no digit is a letter. -/
theorem isAlpha_of_isAlphanum (h : c.isAlphanum) (hdigit : c.isDigit = false) : c.isAlpha := by
  rwa [Char.isAlphanum, hdigit, Bool.or_false] at h

/-- A text that starts with a digit is replaced by a name and the same text marked. What starts with
another character of the text is a name as it is. -/
theorem marked_mem_nameForm (hstart : start ∈ nameForm first) (hmarked : ∀ c ∈ marked, c.isAlphanum)
    (hne : text ≠ []) (htext : ∀ c ∈ text, c.isAlphanum)
    (hhead : ∀ c ∈ text.head?, c.isDigit = false → first c) :
    (if startsWithDigit text then start ++ marked else text) ∈ nameForm first := by
  split
  · exact append_mem_nameForm hstart hmarked
  · next hdigit =>
      cases text with
      | nil => exact absurd rfl hne
      | cons c rest =>
          have hc : c.isDigit = false := Bool.eq_false_iff.2 hdigit
          exact mem_oneOf_mul_kstar_iff.2
            ⟨c, rest, hhead c rfl hc, fun d hd => htext d (List.mem_cons_of_mem c hd), rfl⟩

/-- A capital leaves letters and digits what they are. -/
theorem isAlphanum_of_mem_capitalize (h : ∀ c ∈ text, c.isAlphanum) :
    ∀ c ∈ capitalize text, c.isAlphanum := by
  cases text with
  | nil => nofun
  | cons c rest =>
      obtain ⟨hc, hrest⟩ := List.forall_mem_cons.1 h
      exact List.forall_mem_cons.2 ⟨Text.isAlphanum_toUpper hc, hrest⟩

/-- Lower case leaves letters and digits what they are. -/
theorem isAlphanum_of_mem_lowerAscii (h : ∀ c ∈ text, c.isAlphanum) :
    ∀ c ∈ Text.lowerAscii text, c.isAlphanum := by
  intro c hc
  obtain ⟨d, hd, rfl⟩ := List.mem_map.1 hc
  exact Text.isAlphanum_toLower (h d hd)

/-- Words of letters and digits are joined in camel case to letters and digits. -/
theorem isAlphanum_of_mem_camelWords (h : ∀ word ∈ texts, ∀ c ∈ word, c.isAlphanum) :
    ∀ c ∈ camelWords texts, c.isAlphanum := by
  intro c hc
  cases texts with
  | nil => cases hc
  | cons first rest =>
      obtain ⟨hfirst, hrest⟩ := List.forall_mem_cons.1 h
      rcases List.mem_append.1 hc with hlower | hlater
      · exact isAlphanum_of_mem_lowerAscii hfirst c hlower
      · obtain ⟨word, hword, hmem⟩ := List.mem_flatMap.1 hlater
        exact isAlphanum_of_mem_capitalize (isAlphanum_of_mem_lowerAscii (hrest word hword)) c hmem

/-- The words of a name joined in camel case start with a lowercase letter or a digit. -/
theorem isLower_of_head_camelWords (hc : c ∈ (camelWords (words text)).head?)
    (hdigit : c.isDigit = false) : c.isLower := by
  rcases words_cases text with hnil | ⟨d, rest, later, hd, hcons⟩
  · rw [hnil] at hc
    cases hc
  · rw [hcons] at hc
    obtain rfl : d.toLower = c := Option.some.inj hc
    exact (Text.toLower_cases hd).resolve_right (Bool.eq_false_iff.1 hdigit)

/-- The capitalized words of a name start with an uppercase letter or a digit. -/
theorem isUpper_of_head_capitalized (hc : c ∈ ((words text).flatMap capitalize).head?)
    (hdigit : c.isDigit = false) : c.isUpper := by
  rcases words_cases text with hnil | ⟨d, rest, later, hd, hcons⟩
  · rw [hnil] at hc
    cases hc
  · rw [hcons] at hc
    obtain rfl : d.toUpper = c := Option.some.inj hc
    exact (Text.toUpper_cases hd).resolve_right (Bool.eq_false_iff.1 hdigit)

/-- The words of a literal are joined to letters and digits. -/
theorem isAlphanum_of_mem_literalWords (h : c ∈ literalWords text) : c.isAlphanum := by
  unfold literalWords at h
  split at h
  · cases h
  · rcases List.mem_append.1 h with hfirst | hlater
    · exact (List.mem_filter.1 hfirst).2
    · obtain ⟨word, _, hmem⟩ := List.mem_flatMap.1 hlater
      cases word with
      | nil => cases hmem
      | cons d rest =>
          rcases List.mem_append.1 hmem with hcapital | hrest
          · exact (List.mem_filter.1 hcapital).2
          · exact (List.mem_filter.1 hrest).2

/-- A word in lower case is a group. -/
theorem lowerAscii_mem_groupForm (h : word ∈ words text) : Text.lowerAscii word ∈ groupForm := by
  refine mem_groupForm_iff.2 ⟨mt List.map_eq_nil_iff.1 (ne_nil_of_mem_words h), ?_⟩
  intro c hc
  obtain ⟨d, hd, rfl⟩ := List.mem_map.1 hc
  exact Bool.or_eq_true_iff.2 (Text.toLower_cases (isAlphanum_of_mem_words h hd))

/-- A number may follow a literal. -/
theorem mem_identifierForm_of_isVariant {name result : String} (h : IsVariant name result)
    (hname : name.toList ∈ literalForm) : result.toList ∈ identifierForm := by
  rcases h with rfl | ⟨number, _, rfl⟩
  · rw [← List.append_nil result.toList]
    exact Language.append_mem_mul hname (Language.nil_mem_kstar _)
  · rw [numbered_eq_append, String.toList_append, String.toList_ofList]
    refine Language.append_mem_mul hname (mem_kstar_oneOf_iff.2 fun c hc => ?_)
    exact Nat.isDigit_of_mem_toDigits (by omega) (by omega) hc

/-- Variants of literals may have a number at their end. -/
theorem mem_identifierForm_of_forall₂ {names results : List String}
    (h : List.Forall₂ IsVariant names results)
    (hnames : ∀ name ∈ names, name.toList ∈ literalForm) :
    ∀ result ∈ results, result.toList ∈ identifierForm := by
  induction h with
  | nil => nofun
  | cons hvariant _ ih =>
      obtain ⟨hname, hlater⟩ := List.forall_mem_cons.1 hnames
      exact List.forall_mem_cons.2 ⟨mem_identifierForm_of_isVariant hvariant hname, ih hlater⟩

end Naming

namespace Namer

open Naming
open scoped Computability

variable (namer : Namer)

/-- A reserved word is followed by an underscore. -/
theorem unreserved_mem {form : Language Char} {identifier : String} (h : identifier.toList ∈ form) :
    (namer.unreserved identifier).toList ∈ form * (1 + {['_']}) := by
  unfold unreserved
  split
  · rw [String.toList_push]
    exact Language.append_mem_mul h (.inr rfl)
  · exact mem_mul_optional h

/-- The words that stand in for names. -/
theorem standIns_mem_nameForm :
    "value".toList ∈ nameForm Char.isLower ∧ "empty".toList ∈ nameForm Char.isLower ∧
      "Model".toList ∈ nameForm Char.isUpper := by
  simp only [nameForm, mem_oneOf_mul_kstar_iff]
  exact ⟨⟨'v', ['a', 'l', 'u', 'e'], rfl, List.all_eq_true.1 rfl, rfl⟩,
    ⟨'e', ['m', 'p', 't', 'y'], rfl, List.all_eq_true.1 rfl, rfl⟩,
    ⟨'M', ['o', 'd', 'e', 'l'], rfl, List.all_eq_true.1 rfl, rfl⟩⟩

/-- The identifier of a property has its form, whatever the name of the property is. -/
theorem propertyIdentifier_mem (name : String) :
    (namer.propertyIdentifier name).toList ∈ propertyForm := by
  refine namer.unreserved_mem ?_
  split
  · exact standIns_mem_nameForm.1
  · next hne =>
      have hjoined : ∀ c ∈ camelWords (words name.toList), c.isAlphanum :=
        isAlphanum_of_mem_camelWords fun word hword c hc => isAlphanum_of_mem_words hword hc
      rw [String.toList_ofList]
      exact marked_mem_nameForm standIns_mem_nameForm.1 (isAlphanum_of_mem_capitalize hjoined)
        (mt List.isEmpty_iff.2 hne) hjoined fun c hc => isLower_of_head_camelWords hc

/-- The identifier of a literal has its form, whatever the literal is. -/
theorem enumIdentifier_mem (literal : String) :
    (namer.enumIdentifier literal).toList ∈ literalForm := by
  obtain ⟨hvalue, hempty, _⟩ := standIns_mem_nameForm
  have hletter : ∀ c : Char, c.isLower → c.isAlpha := fun _ => Text.isAlpha_of_isLower
  unfold enumIdentifier
  dsimp only
  split
  · exact mem_mul_optional (mem_nameForm_of_imp hletter hempty)
  · split
    · refine mem_mul_optional ?_
      rw [String.toList_append]
      refine append_mem_nameForm (mem_nameForm_of_imp hletter hvalue) fun c hc => ?_
      rw [String.toList_ofList] at hc
      exact Text.isAlphanum_of_isDigit (List.mem_filter.1 hc).2
    · split
      · exact mem_mul_optional (mem_nameForm_of_imp hletter hempty)
      · next hne =>
          refine namer.unreserved_mem ?_
          have hjoined : ∀ c ∈ literalWords literal.toList, c.isAlphanum := by
            intro c hc
            exact isAlphanum_of_mem_literalWords hc
          rw [String.toList_ofList]
          refine marked_mem_nameForm (mem_nameForm_of_imp hletter hvalue)
            (isAlphanum_of_mem_capitalize hjoined) (mt List.isEmpty_iff.2 hne) hjoined ?_
          intro c hc hdigit
          exact isAlpha_of_isAlphanum (hjoined c (List.mem_of_head? hc)) hdigit

/-- The class name of a schema has its form, whatever the schema is called. -/
theorem plainClassName_mem (name : String) : (plainClassName name).toList ∈ classForm := by
  obtain ⟨_, _, hmodel⟩ := standIns_mem_nameForm
  unfold plainClassName
  dsimp only
  split
  · exact hmodel
  · next hne =>
      have hjoined : ∀ c ∈ (words name.toList).flatMap capitalize, c.isAlphanum := by
        intro c hc
        obtain ⟨word, hword, hmem⟩ := List.mem_flatMap.1 hc
        exact isAlphanum_of_mem_capitalize (fun d hd => isAlphanum_of_mem_words hword hd) c hmem
      rw [String.toList_ofList]
      exact marked_mem_nameForm hmodel hjoined (mt List.isEmpty_iff.2 hne) hjoined
        fun c hc => isUpper_of_head_capitalized hc

/-- With a suffix of letters and digits the class name still has its form. -/
theorem className_mem (hsuffix : ∀ c ∈ namer.suffix.toList, c.isAlphanum) (name : String) :
    (namer.className name).toList ∈ classForm := by
  unfold className
  dsimp only
  split
  · rw [String.toList_append]
    exact append_mem_nameForm (plainClassName_mem name) hsuffix
  · exact plainClassName_mem name

/-- A class name starts with an uppercase letter, whatever the suffix is. -/
theorem exists_className_eq (name : String) :
    ∃ c rest, c.isUpper ∧ (namer.className name).toList = c :: rest := by
  obtain ⟨c, rest, hc, _, heq⟩ := mem_oneOf_mul_kstar_iff.1 (plainClassName_mem name)
  unfold className
  dsimp only
  split
  · -- The suffix comes behind the first letter, whatever it holds.
    exact ⟨c, rest ++ namer.suffix.toList, hc, by rw [String.toList_append, heq]; rfl⟩
  · exact ⟨c, rest, hc, heq⟩

/-- The file of a class has its form, whatever the suffix of class names is. -/
theorem fileName_mem (name : String) : (namer.fileName name).toList ∈ fileForm := by
  obtain ⟨c, rest, hupper, heq⟩ := namer.exists_className_eq name
  have hletter := Text.isAlpha_of_isUpper hupper
  -- So the first word starts with a letter, and no digit can come first in the file.
  obtain ⟨tail, later, hwords⟩ := words_cons (Text.isAlphanum_of_isAlpha hletter) rest
  rw [fileName, classFile, snakeCase, String.toList_ofList, heq, mem_fileForm_iff]
  refine ⟨?groups, ?first⟩
  case groups =>
    refine mem_groupsForm_iff.2 ⟨_, ?_, ?_, rfl⟩
    · rw [hwords]
      exact List.cons_ne_nil _ _
    · intro group hgroup
      obtain ⟨word, hword, rfl⟩ := List.mem_map.1 hgroup
      exact lowerAscii_mem_groupForm hword
  case first =>
    rw [hwords, List.map_cons, intercalate_cons]
    have hlower : c.toLower.isLower := by rwa [Char.isLower_toLower_eq_isAlpha]
    exact Text.isDigit_eq_false_of_isLower hlower

end Namer

end SchemaGraph
