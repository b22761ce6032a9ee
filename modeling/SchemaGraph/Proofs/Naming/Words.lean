import SchemaGraph.Naming.Words

/-!
# What the words of a name hold

Splitting a name into words loses and invents nothing: the words joined again are the letters and
digits of the name (`flatten_words`), and no word is empty (`ne_nil_of_mem_words`). So a word starts
where the name does when that is a letter or a digit (`words_cons`).
-/

namespace SchemaGraph.Naming

variable {current text word rest : List Char} {before c : Char}

/-- A letter or digit starts a word when no word is current. -/
theorem wordsFrom_first (hc : c.isAlphanum) (rest : List Char) :
    wordsFrom [] (c :: rest) = wordsFrom [c] rest := by
  rw [wordsFrom, if_pos hc]

/-- The current word ends where the letter case shows the start of another. -/
theorem wordsFrom_start (hc : c.isAlphanum) (hstart : startsWord before c rest.head?)
    (earlier : List Char) :
    wordsFrom (before :: earlier) (c :: rest) =
      (before :: earlier).reverse :: wordsFrom [c] rest := by
  rw [wordsFrom, if_pos hc, if_pos hstart]

/-- The current word goes on with any other letter or digit. -/
theorem wordsFrom_goOn (hc : c.isAlphanum) (hstart : startsWord before c rest.head? = false)
    (earlier : List Char) :
    wordsFrom (before :: earlier) (c :: rest) = wordsFrom (c :: before :: earlier) rest := by
  rw [wordsFrom, if_pos hc, if_neg (Bool.eq_false_iff.1 hstart)]

/-- The current word ends at a character that is neither letter nor digit. -/
theorem wordsFrom_separator (hc : c.isAlphanum = false) (current rest : List Char) :
    wordsFrom current (c :: rest) = finished current ++ words rest := by
  cases current <;> rw [wordsFrom, if_neg (Bool.eq_false_iff.1 hc), words]

/-- A character that is neither letter nor digit is in no word. -/
theorem words_separator (hc : c.isAlphanum = false) (rest : List Char) :
    words (c :: rest) = words rest :=
  wordsFrom_separator hc [] rest

/-- The current word comes first. -/
theorem exists_wordsFrom_cons (c : Char) (current text : List Char) :
    ∃ tail later, wordsFrom (c :: current) text = ((c :: current).reverse ++ tail) :: later := by
  induction text generalizing c current with
  | nil => exact ⟨[], [], by simp [wordsFrom, finished]⟩
  | cons d rest ih =>
      cases hd : d.isAlphanum with
      | false => exact ⟨[], words rest, by rw [wordsFrom_separator hd]; simp [finished]⟩
      | true =>
          cases hstart : startsWord c d rest.head? with
          | true =>
              exact ⟨[], wordsFrom [d] rest, by rw [wordsFrom_start hd hstart, List.append_nil]⟩
          | false =>
              obtain ⟨tail, later, heq⟩ := ih d (c :: current)
              exact ⟨d :: tail, later, by rw [wordsFrom_goOn hd hstart, heq]; simp⟩

/-- A word that is finished holds what it was made of. -/
theorem flatten_finished (current : List Char) : (finished current).flatten = current.reverse := by
  cases current <;> simp [finished]

/-- A word that is finished is not empty. -/
theorem ne_nil_of_mem_finished (h : word ∈ finished current) : word ≠ [] := by
  cases current with
  | nil => cases h
  | cons before rest =>
      obtain rfl := List.mem_singleton.1 h
      simp

/-- The words hold the current word and the letters and digits after it. -/
theorem flatten_wordsFrom (current text : List Char) :
    (wordsFrom current text).flatten = current.reverse ++ text.filter Char.isAlphanum := by
  fun_induction wordsFrom current text with
  | case1 current => rw [flatten_finished, List.filter_nil, List.append_nil]
  | case2 c rest hc ih => rw [ih, List.filter_cons_of_pos hc]; rfl
  | case3 c rest hc before earlier _ ih =>
      -- A word ends before `c`, which starts the next one.
      rw [List.flatten_cons, ih, List.filter_cons_of_pos hc]; rfl
  | case4 c rest hc before earlier _ ih =>
      rw [ih, List.filter_cons_of_pos hc, List.reverse_cons, List.append_assoc]; rfl
  | case5 current c rest hc ih =>
      -- Only a character that is neither letter nor digit is left out.
      rw [List.flatten_append, flatten_finished, ih, List.filter_cons_of_neg hc]; rfl

/-- No word is empty. -/
theorem ne_nil_of_mem_wordsFrom (h : word ∈ wordsFrom current text) : word ≠ [] := by
  fun_induction wordsFrom current text with
  | case1 current => exact ne_nil_of_mem_finished h
  | case2 c rest hc ih => exact ih h
  | case3 c rest hc before earlier _ ih =>
      rcases List.mem_cons.1 h with rfl | hlater
      · simp
      · exact ih hlater
  | case4 c rest hc before earlier _ ih => exact ih h
  | case5 current c rest hc ih =>
      rcases List.mem_append.1 h with hfinished | hlater
      · exact ne_nil_of_mem_finished hfinished
      · exact ih hlater

/-- The words of a name hold its letters and digits. -/
theorem flatten_words (text : List Char) : (words text).flatten = text.filter Char.isAlphanum :=
  flatten_wordsFrom [] text

/-- No word of a name is empty. -/
theorem ne_nil_of_mem_words (h : word ∈ words text) : word ≠ [] :=
  ne_nil_of_mem_wordsFrom h

/-- Words are made of letters and digits. -/
theorem isAlphanum_of_mem_words (h : word ∈ words text) (hc : c ∈ word) : c.isAlphanum := by
  have hmem : c ∈ (words text).flatten := List.mem_flatten.2 ⟨word, h, hc⟩
  rw [flatten_words] at hmem
  exact (List.mem_filter.1 hmem).2

/-- The words of a name are none, or the first one starts with a letter or digit. -/
theorem words_cases (text : List Char) :
    words text = [] ∨ ∃ c rest later, c.isAlphanum ∧ words text = (c :: rest) :: later := by
  cases hwords : words text with
  | nil => exact .inl rfl
  | cons word later =>
      have hmem : word ∈ words text := hwords ▸ List.mem_cons_self
      cases word with
      | nil => exact absurd rfl (ne_nil_of_mem_words hmem)
      | cons c rest =>
          exact .inr ⟨c, rest, later, isAlphanum_of_mem_words hmem List.mem_cons_self, rfl⟩

/-- The first word of a name starts with its first letter or digit. -/
theorem words_cons (hc : c.isAlphanum) (rest : List Char) :
    ∃ tail later, words (c :: rest) = (c :: tail) :: later := by
  rw [words, wordsFrom_first hc]
  exact exists_wordsFrom_cons c [] rest

end SchemaGraph.Naming
