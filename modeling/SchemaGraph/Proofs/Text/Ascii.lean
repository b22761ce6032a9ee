import Mathlib
import SchemaGraph.Text.Case

/-!
# Letters and digits of ASCII

The classes of ASCII characters as ranges of code points, and what a change of letter case does to
them: a letter or digit stays one, and it is a letter of the new case unless it is a digit. In a
text of ASCII each letter is put in lower case by itself (`lower_eq_lowerAscii`).
-/

namespace SchemaGraph.Text

variable {c : Char} {text : List Char}

/-- The uppercase letters are a range. -/
theorem isUpper_iff_toNat : c.isUpper ↔ 0x41 ≤ c.toNat ∧ c.toNat ≤ 0x5A := by
  simp [Char.isUpper, UInt32.le_iff_toNat_le, ← Char.toNat_val]

/-- The lowercase letters are a range. -/
theorem isLower_iff_toNat : c.isLower ↔ 0x61 ≤ c.toNat ∧ c.toNat ≤ 0x7A := by
  simp [Char.isLower, UInt32.le_iff_toNat_le, ← Char.toNat_val]

/-- The digits are a range. -/
theorem isDigit_iff_toNat : c.isDigit ↔ 0x30 ≤ c.toNat ∧ c.toNat ≤ 0x39 :=
  Char.isDigit_iff_toNat

/-- A lowercase letter is no digit. -/
theorem isDigit_eq_false_of_isLower (h : c.isLower) : c.isDigit = false := by
  rw [isLower_iff_toNat] at h
  rw [← Bool.not_eq_true, isDigit_iff_toNat]
  omega

/-- A digit is no letter. -/
theorem isAlpha_eq_false_of_isDigit (h : c.isDigit) : c.isAlpha = false := by
  rw [isDigit_iff_toNat] at h
  rw [← Bool.not_eq_true, Char.isAlpha, Bool.or_eq_true, isUpper_iff_toNat, isLower_iff_toNat]
  omega

/-- A lowercase letter is a letter. -/
theorem isAlpha_of_isLower (h : c.isLower) : c.isAlpha := by
  rw [Char.isAlpha, h, Bool.or_true]

/-- An uppercase letter is a letter. -/
theorem isAlpha_of_isUpper (h : c.isUpper) : c.isAlpha := by
  rw [Char.isAlpha, h, Bool.true_or]

/-- A letter is a letter or digit. -/
theorem isAlphanum_of_isAlpha (h : c.isAlpha) : c.isAlphanum := by
  rw [Char.isAlphanum, h, Bool.true_or]

/-- A digit is a letter or digit. -/
theorem isAlphanum_of_isDigit (h : c.isDigit) : c.isAlphanum := by
  rw [Char.isAlphanum, h, Bool.or_true]

/-- A digit stays as it is in lower case. -/
theorem toLower_eq_self_of_isDigit (h : c.isDigit) : c.toLower = c :=
  Char.toLower_eq_of_not_isUpper fun hupper =>
    absurd (isAlpha_of_isUpper hupper) (Bool.eq_false_iff.1 (isAlpha_eq_false_of_isDigit h))

/-- A digit stays as it is in upper case. -/
theorem toUpper_eq_self_of_isDigit (h : c.isDigit) : c.toUpper = c :=
  Char.toUpper_eq_of_not_isLower fun hlower =>
    absurd (isAlpha_of_isLower hlower) (Bool.eq_false_iff.1 (isAlpha_eq_false_of_isDigit h))

/-- A letter is a lowercase letter in lower case, and a digit is still a digit. -/
theorem toLower_cases (h : c.isAlphanum) : c.toLower.isLower ∨ c.toLower.isDigit := by
  rcases Bool.or_eq_true_iff.1 h with hletter | hdigit
  · exact .inl (by rwa [Char.isLower_toLower_eq_isAlpha])
  · exact .inr (by rwa [toLower_eq_self_of_isDigit hdigit])

/-- A letter is an uppercase letter in upper case, and a digit is still a digit. -/
theorem toUpper_cases (h : c.isAlphanum) : c.toUpper.isUpper ∨ c.toUpper.isDigit := by
  rcases Bool.or_eq_true_iff.1 h with hletter | hdigit
  · exact .inl (by rwa [Char.isUpper_toUpper_eq_isAlpha])
  · exact .inr (by rwa [toUpper_eq_self_of_isDigit hdigit])

/-- A letter or digit stays one in lower case. -/
theorem isAlphanum_toLower (h : c.isAlphanum) : c.toLower.isAlphanum := by
  rcases toLower_cases h with hlower | hdigit
  · exact isAlphanum_of_isAlpha (isAlpha_of_isLower hlower)
  · exact isAlphanum_of_isDigit hdigit

/-- A letter or digit stays one in upper case. -/
theorem isAlphanum_toUpper (h : c.isAlphanum) : c.toUpper.isAlphanum := by
  rcases toUpper_cases h with hupper | hdigit
  · exact isAlphanum_of_isAlpha (isAlpha_of_isUpper hupper)
  · exact isAlphanum_of_isDigit hdigit

/-- The letters and digits are characters of ASCII. -/
theorem toNat_lt_of_isAlphanum (h : c.isAlphanum) : c.toNat < 0x80 := by
  rw [Char.isAlphanum, Char.isAlpha, Bool.or_eq_true, Bool.or_eq_true, isUpper_iff_toNat,
    isLower_iff_toNat, isDigit_iff_toNat] at h
  omega

/-- A text of ASCII is put in lower case letter by letter. None of its characters has a form that
depends on its context. -/
theorem lower_eq_lowerAscii (h : ∀ c ∈ text, c.toNat < 0x80) : lower text = lowerAscii text := by
  suffices hafter : ∀ before, lowerAfter before text = lowerAscii text from hafter []
  induction text with
  | nil => exact fun _ => rfl
  | cons c rest ih =>
      intro before
      obtain ⟨hascii, hrest⟩ := List.forall_mem_cons.1 h
      have hsigma : c ≠ '\u03a3' := by
        rintro rfl
        exact absurd hascii (by decide)
      rw [lowerAfter, if_neg hsigma, lowerChar, if_pos hascii, ih hrest]
      rfl

/-- A text of ASCII without uppercase letters stays as it is. -/
theorem lower_eq_self (h : ∀ c ∈ text, c.toNat < 0x80 ∧ c.isUpper = false) : lower text = text := by
  have hsame : ∀ c ∈ text, c.toLower = c := fun c hc =>
    Char.toLower_eq_of_not_isUpper (Bool.eq_false_iff.1 (h c hc).2)
  rw [lower_eq_lowerAscii fun c hc => (h c hc).1]
  exact (List.map_congr_left hsame).trans (List.map_id' text)

/-- A text in lower case stays as it is. -/
theorem lowerAscii_lowerAscii (text : List Char) :
    lowerAscii (lowerAscii text) = lowerAscii text := by
  rw [lowerAscii, lowerAscii, List.map_map]
  exact List.map_congr_left fun c _ => Char.toLower_toLower_eq_toLower c

end SchemaGraph.Text
