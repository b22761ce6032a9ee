import Mathlib.Data.List.Basic
import SchemaGraph.Proofs.Naming.Words
import SchemaGraph.Proofs.Text.Ascii

/-!
# Where words end

A text can be taken apart without a change to its words exactly where no word goes on: where one of
the two neighbours is neither letter nor digit, and where the letter case shows the start of a word
(`words_append_iff`). What one step of the reading does comes first: it ends words and keeps the
letters and digits that it has seen (`exists_wordsFrom_step`). So does the reading of a part of a
text (`exists_wordsFrom_append`).
-/

namespace SchemaGraph.Naming

variable {current start tail left right earlier rest : List Char} {before c : Char}
  {after : Option Char}

section Reading

/-- A character that is read ends words, and it belongs to the current one if it is a letter or
digit. -/
theorem exists_wordsFrom_step (current rest : List Char) (c : Char) :
    ∃ ended last, wordsFrom current (c :: rest) = ended ++ wordsFrom last rest ∧
      ended.flatten ++ last.reverse = current.reverse ++ [c].filter Char.isAlphanum ∧
      (c.isAlphanum → ∃ earlier, last = c :: earlier) := by
  cases hc : c.isAlphanum with
  | false =>
      refine ⟨finished current, [], wordsFrom_separator hc current rest, ?_, nofun⟩
      simp [flatten_finished, hc]
  | true =>
      cases current with
      | nil => exact ⟨[], [c], wordsFrom_first hc rest, by simp [hc], fun _ => ⟨[], rfl⟩⟩
      | cons before earlier =>
          cases hstart : startsWord before c rest.head? with
          | true =>
              refine ⟨[(before :: earlier).reverse], [c], wordsFrom_start hc hstart earlier, ?_,
                fun _ => ⟨[], rfl⟩⟩
              simp [hc]
          | false =>
              refine ⟨[], c :: before :: earlier, wordsFrom_goOn hc hstart earlier, ?_,
                fun _ => ⟨before :: earlier, rfl⟩⟩
              simp [hc]

/-- A part of a text that is read ends words, and the rest of its letters and digits is the current
word. -/
theorem exists_wordsFrom_append (current left right : List Char) :
    ∃ ended last, wordsFrom current (left ++ right) = ended ++ wordsFrom last right ∧
      ended.flatten ++ last.reverse = current.reverse ++ left.filter Char.isAlphanum := by
  induction left generalizing current with
  | nil => exact ⟨[], current, rfl, by simp⟩
  | cons c rest ih =>
      obtain ⟨first, middle, hfirst, hfirstFlatten, _⟩ :=
        exists_wordsFrom_step current (rest ++ right) c
      obtain ⟨later, last, hlater, hlaterFlatten⟩ := ih middle
      refine ⟨first ++ later, last, ?_, ?_⟩
      · rw [List.cons_append, hfirst, hlater, List.append_assoc]
      · rw [List.flatten_append, List.append_assoc, hlaterFlatten, ← List.append_assoc,
          hfirstFlatten, List.append_assoc, ← List.filter_append]
        rfl

/-- A letter or digit of a text belongs to the word that is current behind it. -/
theorem exists_words_append_cons (hc : c.isAlphanum) (left right : List Char) :
    ∃ ended earlier, words (left ++ c :: right) = ended ++ wordsFrom (c :: earlier) right ∧
      ended.flatten ++ (c :: earlier).reverse = (left ++ [c]).filter Char.isAlphanum := by
  obtain ⟨first, current, hfirst, hfirstFlatten⟩ := exists_wordsFrom_append [] left (c :: right)
  obtain ⟨later, last, hlater, hlaterFlatten, hlast⟩ := exists_wordsFrom_step current right c
  obtain ⟨earlier, rfl⟩ := hlast hc
  refine ⟨first ++ later, earlier, ?_, ?_⟩
  · rw [words, hfirst, hlater, List.append_assoc]
  · rw [List.flatten_append, List.append_assoc, hlaterFlatten, ← List.append_assoc,
      hfirstFlatten, List.filter_append]
    rfl

end Reading

section Parts

/-- Whether no word of a text goes on from one part of it to the next: on one side of the place
where they meet there is no letter or digit, or the letter case shows the start of a word. -/
def Parted (left right : List Char) : Prop :=
  ∀ before ∈ left.getLast?, ∀ c ∈ right.head?, before.isAlphanum → c.isAlphanum →
    startsWord before c right.tail.head?

/-- Only the last character of the first part matters. -/
theorem Parted.of_append (h : Parted (earlier ++ left) right) : Parted left right :=
  fun before hbefore => h before (List.mem_getLast?_append_of_mem_getLast? hbefore)

/-- No word goes on at a character that is neither letter nor digit. -/
theorem parted_cons (hc : c.isAlphanum = false) (left right : List Char) :
    Parted left (c :: right) := by
  intro _ _ d hd _ hletter
  obtain rfl : c = d := Option.some.inj hd
  exact absurd hletter (Bool.eq_false_iff.1 hc)

/-- A word does not start with a lowercase letter after a letter or digit. -/
theorem isLower_eq_false_of_startsWord (h : startsWord before c after) : c.isLower = false :=
  Bool.eq_false_iff.2 (Char.not_isLower_of_isUpper (Bool.and_eq_true_iff.1 h).1)

/-- Whether a word starts in a part does not depend on the next part, if no word goes on there. -/
theorem Parted.startsWord_eq (h : Parted (c :: rest) right) (hc : c.isAlphanum) (before : Char) :
    startsWord before c (rest ++ right).head? = startsWord before c rest.head? := by
  cases rest with
  | cons d later => rfl
  | nil =>
      cases right with
      | nil => rfl
      | cons d later =>
          -- Only a lowercase letter ahead would count, and the word of `c` would go on with it.
          have hd : d.isLower = false := by
            by_contra hlower
            have hletter := Text.isAlphanum_of_isAlpha
              (Text.isAlpha_of_isLower (Bool.eq_true_of_not_eq_false hlower))
            exact hlower (isLower_eq_false_of_startsWord (h c rfl d rfl hc hletter))
          simp [startsWord, hd]

/-- The current word ends behind a part if no word goes on there. -/
theorem wordsFrom_of_parted (hcurrent : ∀ c ∈ current, c.isAlphanum)
    (h : Parted current.reverse right) :
    wordsFrom current right = finished current ++ words right := by
  cases right with
  | nil => exact (List.append_nil _).symm
  | cons c rest =>
      cases hc : c.isAlphanum with
      | false => rw [wordsFrom_separator hc, words_separator hc]
      | true =>
          cases current with
          | nil => rfl
          | cons before earlier =>
              have hlast : (before :: earlier).reverse.getLast? = some before :=
                List.getLast?_reverse
              have hstart : startsWord before c rest.head? :=
                h before hlast c rfl (hcurrent before List.mem_cons_self) hc
              rw [wordsFrom_start hc hstart, words, wordsFrom_first hc]
              rfl

/-- The words of a text are those of its parts if no word goes on from one to the other. -/
theorem wordsFrom_append (hcurrent : ∀ c ∈ current, c.isAlphanum)
    (h : Parted (current.reverse ++ left) right) :
    wordsFrom current (left ++ right) = wordsFrom current left ++ words right := by
  fun_induction wordsFrom current left with
  | case1 current =>
      rw [List.append_nil] at h
      exact wordsFrom_of_parted hcurrent h
  | case2 c rest hc ih =>
      rw [List.cons_append, wordsFrom_first hc]
      exact ih (List.forall_mem_singleton.2 hc) h
  | case3 c rest hc before earlier hstart ih =>
      have hparted : Parted (c :: rest) right := h.of_append
      rw [List.cons_append, wordsFrom_start hc ((hparted.startsWord_eq hc before).trans hstart),
        ih (List.forall_mem_singleton.2 hc) hparted]
      rfl
  | case4 c rest hc before earlier hstart ih =>
      have hparted : Parted (c :: rest) right := h.of_append
      have hgoesOn := (hparted.startsWord_eq hc before).trans (Bool.eq_false_iff.2 hstart)
      rw [List.cons_append, wordsFrom_goOn hc hgoesOn]
      refine ih (List.forall_mem_cons.2 ⟨hc, hcurrent⟩) ?_
      rwa [List.reverse_cons, List.append_assoc]
  | case5 current c rest hc ih =>
      have hparted : Parted ([c] ++ rest) right := h.of_append
      rw [List.cons_append, wordsFrom_separator (Bool.eq_false_iff.2 hc), words,
        ih (List.forall_mem_nil _) hparted.of_append, List.append_assoc]

/-- No list of words starts with those of `first` if one of its words goes on where they end. -/
theorem append_ne_of_flatten_eq {first second ended later : List (List Char)}
    (hflatten : first.flatten = ended.flatten ++ start) (hstart : start ≠ []) (htail : tail ≠ []) :
    ended ++ (start ++ tail) :: later ≠ first ++ second := by
  intro h
  rcases List.append_eq_append_iff.1 h with ⟨more, rfl, hmore⟩ | ⟨more, rfl, -⟩
  · rw [List.flatten_append, List.append_cancel_left_eq] at hflatten
    cases more with
    | nil => exact hstart hflatten.symm
    | cons word more =>
        obtain ⟨rfl, -⟩ := List.cons.inj hmore
        rw [List.flatten_cons, List.append_assoc, List.append_right_eq_self] at hflatten
        exact htail (List.append_eq_nil_iff.1 hflatten).1
  · rw [List.flatten_append, List.append_assoc, List.self_eq_append_right] at hflatten
    exact hstart (List.append_eq_nil_iff.1 hflatten).2

/-- If a word goes on from one part of a text to the next, the words of the parts are others than
those of the text. -/
theorem words_append_ne (hbefore : before.isAlphanum) (hc : c.isAlphanum)
    (hstart : startsWord before c right.head? = false) (left : List Char) :
    words (left ++ before :: c :: right) ≠ words (left ++ [before]) ++ words (c :: right) := by
  obtain ⟨ended, earlier, hended, hflatten⟩ := exists_words_append_cons hbefore left (c :: right)
  obtain ⟨tail, later, htail⟩ := exists_wordsFrom_cons c (before :: earlier) right
  -- The word that is current behind `before` goes on with `c`.
  have hgoesOn : words (left ++ before :: c :: right) =
      ended ++ ((before :: earlier).reverse ++ c :: tail) :: later := by
    rw [hended, wordsFrom_goOn hc hstart, htail, List.reverse_cons, List.append_assoc]
    rfl
  rw [hgoesOn]
  have hcurrent : (before :: earlier).reverse ≠ [] :=
    List.reverse_ne_nil_iff.2 (List.cons_ne_nil before earlier)
  exact append_ne_of_flatten_eq ((flatten_words _).trans hflatten.symm) hcurrent
    (List.cons_ne_nil c tail)

/-- The words of a text are those of its two parts exactly if no word goes on from one to the
other. -/
theorem words_append_iff :
    words (left ++ right) = words left ++ words right ↔ Parted left right := by
  constructor
  · intro h before hbefore c hc hletter hnext
    by_contra hstart
    obtain ⟨front, rfl⟩ := List.getLast?_eq_some_iff.1 hbefore
    obtain ⟨rest, rfl⟩ := List.head?_eq_some_iff.1 hc
    rw [List.append_assoc] at h
    exact words_append_ne hletter hnext (Bool.eq_false_iff.2 hstart) front h
  · exact fun h => wordsFrom_append (List.forall_mem_nil _) h

end Parts

end SchemaGraph.Naming
