import SchemaGraph.Proofs.Naming.Boundaries
import SchemaGraph.Proofs.Naming.Packages
import SchemaGraph.Proofs.Naming.WellFormed

/-!
# Names in snake case

The words of a name in snake case are those of the name in lower case (`words_snakeCase`): each of
them is one word, since it has no uppercase letter, and ends at the underscore. So a name in snake
case is not changed when it is put in snake case again (`snakeCase_snakeCase`). With what the words
hold and where they end this is `words_stable`.
-/

namespace SchemaGraph.Naming

variable {current text group : List Char} {groups : List (List Char)} {c : Char}

/-- The characters of groups are letters and digits. -/
theorem isAlphanum_of_isPackageChar (h : isPackageChar c) : c.isAlphanum := by
  rcases Bool.or_eq_true_iff.1 h with hlower | hdigit
  · exact Text.isAlphanum_of_isAlpha (Text.isAlpha_of_isLower hlower)
  · exact Text.isAlphanum_of_isDigit hdigit

/-- No word starts with a character of a group, after a letter or digit. -/
theorem startsWord_eq_false (h : isPackageChar c) (before : Char) (after : Option Char) :
    startsWord before c after = false := by
  have hupper := (not_isUpper_of_isPackageChar (.inl h)).2
  rw [startsWord, hupper, Bool.false_and]

/-- The current word goes on with all characters of a group. -/
theorem wordsFrom_of_isPackageChar (h : ∀ c ∈ text, isPackageChar c) (current : List Char) :
    wordsFrom current text = finished (text.reverse ++ current) := by
  induction text generalizing current with
  | nil => rfl
  | cons c rest ih =>
      obtain ⟨hc, hrest⟩ := List.forall_mem_cons.1 h
      have hletter := isAlphanum_of_isPackageChar hc
      rw [List.reverse_cons, List.append_assoc]
      cases current with
      | nil => exact (wordsFrom_first hletter rest).trans (ih hrest [c])
      | cons before earlier =>
          rw [wordsFrom_goOn hletter (startsWord_eq_false hc before _)]
          exact ih hrest (c :: before :: earlier)

/-- A group is one word. -/
theorem words_eq_singleton (h : group ∈ groupForm) : words group = [group] := by
  obtain ⟨hne, hgroup⟩ := mem_groupForm_iff.1 h
  rw [words, wordsFrom_of_isPackageChar hgroup, List.append_nil, finished,
    if_neg (by simpa using hne), List.reverse_reverse]

/-- The words of groups that are joined by underscores are the groups. -/
theorem words_intercalate (h : ∀ group ∈ groups, group ∈ groupForm) :
    words (['_'].intercalate groups) = groups := by
  induction groups with
  | nil => rfl
  | cons group later ih =>
      obtain ⟨hgroup, hlater⟩ := List.forall_mem_cons.1 h
      cases later with
      | nil => rw [List.intercalate_singleton, words_eq_singleton hgroup]
      | cons next later =>
          have hunderscore : Char.isAlphanum '_' = false := rfl
          rw [List.intercalate_cons_cons, List.append_assoc, List.singleton_append,
            words_append_iff.2 (parted_cons hunderscore _ _), words_separator hunderscore,
            words_eq_singleton hgroup, ih hlater]
          rfl

/-- The words of a name in snake case are the words of the name in lower case. -/
theorem words_snakeCase (name : String) :
    words (snakeCase name).toList = (words name.toList).map Text.lowerAscii := by
  rw [snakeCase, String.toList_ofList]
  refine words_intercalate fun group hgroup => ?_
  obtain ⟨word, hword, rfl⟩ := List.mem_map.1 hgroup
  exact lowerAscii_mem_groupForm hword

/-- A name in snake case stays as it is. -/
theorem snakeCase_snakeCase (name : String) : snakeCase (snakeCase name) = snakeCase name := by
  have hlower : Text.lowerAscii ∘ Text.lowerAscii = Text.lowerAscii :=
    funext Text.lowerAscii_lowerAscii
  rw [snakeCase, words_snakeCase, List.map_map, hlower]
  rfl

/-- Words consist of ASCII, so it makes no difference whether they are put in lower case as texts or
letter by letter. -/
theorem map_lower_words (text : List Char) :
    (words text).map Text.lower = (words text).map Text.lowerAscii :=
  List.map_congr_left fun _ hword => Text.lower_eq_lowerAscii fun _ hc =>
    Text.toNat_lt_of_isAlphanum (isAlphanum_of_mem_words hword hc)

/-- Splitting a name into words loses and invents nothing: no word is empty, and the words joined
are the name without what is neither letter nor digit. The name in snake case has the same words in
lower case, so putting it in snake case again leaves it as it is, and with it the file of a class.
Two parts of a text have the words of the text exactly if no word goes on from one to the other. -/
theorem words_stable :
    (∀ name : String,
      [] ∉ words name.toList ∧
      (words name.toList).flatten = name.toList.filter Char.isAlphanum ∧
      words (snakeCase name).toList = (words name.toList).map Text.lower ∧
      snakeCase (snakeCase name) = snakeCase name ∧
      classFile (classFile name) = classFile name ∧
      ∀ namer : Namer, classFile (namer.fileName name) = namer.fileName name) ∧
    ∀ left right : List Char,
      words (left ++ right) = words left ++ words right ↔ Parted left right := by
  refine ⟨fun name => ⟨?nonempty, ?conserved, ?again, ?snake, ?file, fun namer => ?schema⟩,
    fun left right => words_append_iff⟩
  case nonempty => exact fun h => ne_nil_of_mem_words h rfl
  case conserved => exact flatten_words name.toList
  case again => rw [words_snakeCase, map_lower_words]
  case snake => exact snakeCase_snakeCase name
  case file => exact snakeCase_snakeCase name
  case schema => exact snakeCase_snakeCase (namer.className name)

example : words "HTTPResponse_v2Go".toList =
    ["HTTP".toList, "Response".toList, "v2".toList, "Go".toList] := by decide +kernel

end SchemaGraph.Naming
