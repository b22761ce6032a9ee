import Mathlib.Computability.Language
import SchemaGraph.Naming.Identifier
import SchemaGraph.Proofs.Text.Ascii

/-!
# The forms of names

The forms that names have in generated code, as languages of ASCII characters. Each is written as
its regular expression, and membership is said in terms of the characters
(`mem_oneOf_mul_kstar_iff`) and of the groups between underscores (`mem_groupsForm_iff`). The form
of a file is that of groups without a leading digit (`mem_fileForm_iff`).
-/

namespace SchemaGraph.Naming

open scoped Computability

/-- The texts of one character of a class. -/
def oneOf (p : Char → Bool) : Language Char :=
  {text | ∃ c, p c ∧ text = [c]}

/-- A character of a class, and then letters and digits. -/
def nameForm (first : Char → Bool) : Language Char :=
  oneOf first * (oneOf Char.isAlphanum)∗

/-- The form of a property or parameter, `[a-z][A-Za-z0-9]*_?`. -/
def propertyForm : Language Char :=
  nameForm Char.isLower * (1 + {['_']})

/-- The form of a literal, `[A-Za-z][A-Za-z0-9]*_?`. -/
def literalForm : Language Char :=
  nameForm Char.isAlpha * (1 + {['_']})

/-- The form of the identifiers of one collection, `[A-Za-z][A-Za-z0-9]*_?[0-9]*`. -/
def identifierForm : Language Char :=
  literalForm * (oneOf Char.isDigit)∗

/-- The form of a class, `[A-Z][A-Za-z0-9]*`. -/
def classForm : Language Char :=
  nameForm Char.isUpper

/-- A group of lowercase letters and digits, `[a-z0-9]+`. -/
def groupForm : Language Char :=
  oneOf isPackageChar * (oneOf isPackageChar)∗

/-- Groups joined by single underscores, `[a-z0-9]+(_[a-z0-9]+)*`. -/
def groupsForm : Language Char :=
  groupForm * ({['_']} * groupForm)∗

/-- The form of a file, `[a-z][a-z0-9]*(_[a-z0-9]+)*`. -/
def fileForm : Language Char :=
  oneOf Char.isLower * (oneOf isPackageChar)∗ * ({['_']} * groupForm)∗

variable {p q first : Char → Bool} {text more tail group : List Char} {c : Char}

/-- A text of one character. -/
theorem mem_oneOf_iff : text ∈ oneOf p ↔ ∃ c, p c ∧ text = [c] :=
  Iff.rfl

/-- A character of a class may be repeated. -/
theorem mem_kstar_oneOf_iff : text ∈ (oneOf p)∗ ↔ ∀ c ∈ text, p c := by
  constructor
  · intro h c hc
    obtain ⟨parts, rfl, hparts⟩ := Language.mem_kstar.1 h
    obtain ⟨part, hpart, hmem⟩ := List.mem_flatten.1 hc
    obtain ⟨d, hd, rfl⟩ := mem_oneOf_iff.1 (hparts part hpart)
    exact List.mem_singleton.1 hmem ▸ hd
  · intro h
    refine Language.mem_kstar.2 ⟨text.map fun c => [c], ?_, ?_⟩
    · rw [← List.flatMap_def, List.flatMap_singleton']
    · intro part hpart
      obtain ⟨c, hc, rfl⟩ := List.mem_map.1 hpart
      exact ⟨c, h c hc, rfl⟩

/-- A text of one character of a class and others of another class. -/
theorem mem_oneOf_mul_kstar_iff :
    text ∈ oneOf p * (oneOf q)∗ ↔ ∃ c rest, p c ∧ (∀ d ∈ rest, q d) ∧ text = c :: rest := by
  constructor
  · intro h
    obtain ⟨first, hfirst, rest, hrest, rfl⟩ := Language.mem_mul.1 h
    obtain ⟨c, hc, rfl⟩ := mem_oneOf_iff.1 hfirst
    exact ⟨c, rest, hc, mem_kstar_oneOf_iff.1 hrest, rfl⟩
  · rintro ⟨c, rest, hc, hrest, rfl⟩
    have hfirst : [c] ∈ oneOf p := mem_oneOf_iff.2 ⟨c, hc, rfl⟩
    exact Language.append_mem_mul hfirst (mem_kstar_oneOf_iff.2 hrest)

/-- A name may go on with letters and digits. -/
theorem append_mem_nameForm (h : text ∈ nameForm first) (hmore : ∀ c ∈ more, c.isAlphanum) :
    text ++ more ∈ nameForm first := by
  obtain ⟨c, rest, hc, hrest, rfl⟩ := mem_oneOf_mul_kstar_iff.1 h
  refine mem_oneOf_mul_kstar_iff.2 ⟨c, rest ++ more, hc, fun d hd => ?_, rfl⟩
  exact (List.mem_append.1 hd).elim (hrest d) (hmore d)

/-- A form with a wider class of first characters has more names. -/
theorem mem_nameForm_of_imp (himp : ∀ c, p c → q c) (h : text ∈ nameForm p) :
    text ∈ nameForm q := by
  obtain ⟨c, rest, hc, hrest, rfl⟩ := mem_oneOf_mul_kstar_iff.1 h
  exact mem_oneOf_mul_kstar_iff.2 ⟨c, rest, himp c hc, hrest, rfl⟩

/-- A name without the underscore of a reserved word has the form of one that may have it. -/
theorem mem_mul_optional {form : Language Char} (h : text ∈ form) :
    text ∈ form * (1 + {['_']}) := by
  rw [← List.append_nil text]
  exact Language.append_mem_mul h (.inl rfl)

/-- A property has the form of a literal. -/
theorem mem_literalForm_of_mem_propertyForm (h : text ∈ propertyForm) : text ∈ literalForm := by
  obtain ⟨name, hname, ending, hending, rfl⟩ := Language.mem_mul.1 h
  exact Language.append_mem_mul (mem_nameForm_of_imp (fun _ => Text.isAlpha_of_isLower) hname)
    hending

/-- A group is not empty and has lowercase letters and digits only. -/
theorem mem_groupForm_iff : group ∈ groupForm ↔ group ≠ [] ∧ ∀ c ∈ group, isPackageChar c := by
  rw [groupForm, mem_oneOf_mul_kstar_iff]
  constructor
  · rintro ⟨c, rest, hc, hrest, rfl⟩
    exact ⟨List.cons_ne_nil c rest, List.forall_mem_cons.2 ⟨hc, hrest⟩⟩
  · rintro ⟨hne, hgroup⟩
    cases group with
    | nil => exact absurd rfl hne
    | cons c rest =>
        obtain ⟨hc, hrest⟩ := List.forall_mem_cons.1 hgroup
        exact ⟨c, rest, hc, hrest, rfl⟩

/-- What follows the first group is a number of groups, with an underscore before each. -/
theorem mem_kstar_group_iff :
    tail ∈ ({['_']} * groupForm)∗ ↔
      ∃ groups : List (List Char), (∀ group ∈ groups, group ∈ groupForm) ∧
        tail = groups.flatMap ('_' :: ·) := by
  constructor
  · intro h
    obtain ⟨parts, rfl, hparts⟩ := Language.mem_kstar.1 h
    clear h
    induction parts with
    | nil => exact ⟨[], nofun, rfl⟩
    | cons part parts ih =>
        obtain ⟨hpart, hlater⟩ := List.forall_mem_cons.1 hparts
        obtain ⟨_, rfl, group, hgroup, rfl⟩ := Language.mem_mul.1 hpart
        obtain ⟨groups, hgroups, heq⟩ := ih hlater
        refine ⟨group :: groups, List.forall_mem_cons.2 ⟨hgroup, hgroups⟩, ?_⟩
        rw [List.flatten_cons, heq, List.flatMap_cons]
        rfl
  · rintro ⟨groups, hgroups, rfl⟩
    refine Language.mem_kstar.2 ⟨groups.map ('_' :: ·), List.flatMap_def, fun part hpart => ?_⟩
    obtain ⟨group, hgroup, rfl⟩ := List.mem_map.1 hpart
    have hunderscore : ['_'] ∈ ({['_']} : Language Char) := rfl
    exact Language.append_mem_mul hunderscore (hgroups group hgroup)

/-- Joining puts an underscore before each group but the first. -/
theorem intercalate_cons (group : List Char) (groups : List (List Char)) :
    ['_'].intercalate (group :: groups) = group ++ groups.flatMap ('_' :: ·) := by
  induction groups generalizing group with
  | nil => rw [List.intercalate_singleton, List.flatMap_nil, List.append_nil]
  | cons next groups ih =>
      rw [List.intercalate_cons_cons, ih, List.append_assoc]
      rfl

/-- Groups joined by underscores. -/
theorem mem_groupsForm_iff :
    text ∈ groupsForm ↔
      ∃ groups : List (List Char), groups ≠ [] ∧ (∀ group ∈ groups, group ∈ groupForm) ∧
        text = ['_'].intercalate groups := by
  constructor
  · intro h
    obtain ⟨group, hgroup, tail, htail, rfl⟩ := Language.mem_mul.1 h
    obtain ⟨groups, hgroups, rfl⟩ := mem_kstar_group_iff.1 htail
    exact ⟨group :: groups, List.cons_ne_nil _ _, List.forall_mem_cons.2 ⟨hgroup, hgroups⟩,
      (intercalate_cons group groups).symm⟩
  · rintro ⟨groups, hne, hgroups, rfl⟩
    cases groups with
    | nil => exact absurd rfl hne
    | cons group groups =>
        obtain ⟨hgroup, hlater⟩ := List.forall_mem_cons.1 hgroups
        rw [intercalate_cons]
        exact Language.append_mem_mul hgroup (mem_kstar_group_iff.2 ⟨groups, hlater, rfl⟩)

/-- Of the characters of a group, the lowercase letters are those that are no digits. -/
theorem isLower_iff_isPackageChar : c.isLower ↔ isPackageChar c ∧ c.isDigit = false := by
  constructor
  · intro hlower
    exact ⟨by rw [isPackageChar, hlower, Bool.true_or], Text.isDigit_eq_false_of_isLower hlower⟩
  · rintro ⟨hc, hdigit⟩
    rwa [isPackageChar, hdigit, Bool.or_false] at hc

/-- The form of a file is that of groups that do not start with a digit. -/
theorem mem_fileForm_iff : text ∈ fileForm ↔ text ∈ groupsForm ∧ startsWithDigit text = false := by
  constructor
  · intro h
    obtain ⟨_, hgroup, tail, htail, rfl⟩ := Language.mem_mul.1 h
    obtain ⟨c, rest, hc, hrest, rfl⟩ := mem_oneOf_mul_kstar_iff.1 hgroup
    obtain ⟨hc, hdigit⟩ := isLower_iff_isPackageChar.1 hc
    exact ⟨Language.append_mem_mul (mem_oneOf_mul_kstar_iff.2 ⟨c, rest, hc, hrest, rfl⟩) htail,
      hdigit⟩
  · rintro ⟨h, hdigit⟩
    obtain ⟨_, hgroup, tail, htail, rfl⟩ := Language.mem_mul.1 h
    obtain ⟨c, rest, hc, hrest, rfl⟩ := mem_oneOf_mul_kstar_iff.1 hgroup
    have hlower := isLower_iff_isPackageChar.2 ⟨hc, hdigit⟩
    exact Language.append_mem_mul
      (mem_oneOf_mul_kstar_iff.2 ⟨c, rest, hlower, hrest, rfl⟩) htail

end SchemaGraph.Naming
