import SchemaGraph.Text.Composition.Table

/-!
# Canonical composition

A letter with marks has several spellings. `Text.compose` gives the composed one: every character is
taken apart, the marks after a letter are sorted by their combining class, and what composes is put
together again.
-/

namespace SchemaGraph.Text

/-- The combining class of a code point. Marks of one class keep their order, and class zero is that
of the characters that marks follow. -/
def combiningClass (code : Nat) : Nat :=
  match combiningClasses.find? fun entry => inRanges entry.2 code with
  | some (value, _) => value
  | none => 0

/-! ## Hangul syllables -/

/-- The first syllable. Those of one leading consonant and one vowel follow each other, and those
of one leading consonant as well. -/
def firstSyllable : Nat := 0xAC00

/-- The first leading consonant. -/
def firstLeading : Nat := 0x1100

/-- The first vowel. -/
def firstVowel : Nat := 0x1161

/-- The code point before the first trailing consonant, for syllables without one. -/
def noTrailing : Nat := 0x11A7

/-- The number of leading consonants. -/
def leadingCount : Nat := 19

/-- The number of vowels. -/
def vowelCount : Nat := 21

/-- The number of ways in which a syllable can end. -/
def endingCount : Nat := 28

/-- The letters of a syllable. -/
def syllableLetters? (code : Nat) : Option (List Nat) :=
  if firstSyllable ≤ code ∧ code < firstSyllable + leadingCount * vowelCount * endingCount then
    let index := code - firstSyllable
    let leading := firstLeading + index / (vowelCount * endingCount)
    let vowel := firstVowel + index / endingCount % vowelCount
    if index % endingCount = 0 then some [leading, vowel]
    else some [leading, vowel, noTrailing + index % endingCount]
  else none

/-- The syllable of a leading consonant and a vowel, or of an open syllable and a trailing
consonant. -/
def syllable? (first second : Nat) : Option Nat :=
  if firstLeading ≤ first ∧ first < firstLeading + leadingCount ∧
      firstVowel ≤ second ∧ second < firstVowel + vowelCount then
    some (firstSyllable +
      ((first - firstLeading) * vowelCount + (second - firstVowel)) * endingCount)
  else if firstSyllable ≤ first ∧ first < firstSyllable + leadingCount * vowelCount * endingCount ∧
      (first - firstSyllable) % endingCount = 0 ∧
      noTrailing < second ∧ second < noTrailing + endingCount then
    some (first + (second - noTrailing))
  else none

/-! ## Taking apart -/

/-- The code points that a code point is taken apart into, to a given depth. -/
def decomposeTo : Nat → Nat → List Nat
  | 0, code => [code]
  | depth + 1, code =>
      match syllableLetters? code, compositeTable[code]?, oneWayTable[code]? with
      | some letters, _, _ => letters
      | none, some parts, _ => parts.flatMap (decomposeTo depth)
      | none, none, some parts => parts
      | none, none, none => [code]

/-- The number of times that the first part of a character may be composed itself. -/
def compositionDepth : Nat := 4

/-- Put a code point after others, which are in reverse order: a mark goes before the marks of
higher classes. -/
def insertByClass (code : Nat) : List Nat → List Nat
  | [] => [code]
  | last :: before =>
      if combiningClass code ≠ 0 ∧ combiningClass code < combiningClass last then
        last :: insertByClass code before
      else code :: last :: before

/-- The code points of a text, taken apart and with the marks in order. -/
def decompose (codes : List Nat) : List Nat :=
  ((codes.flatMap (decomposeTo compositionDepth)).foldl
    (fun before code => insertByClass code before) []).reverse

/-! ## Putting together -/

/-- The pairs of code points that compose, with what they make. -/
def pairTable : Std.HashMap (Nat × Nat) Nat :=
  Std.HashMap.ofList <| compositeTable.toList.filterMap fun (code, parts) =>
    match parts with
    | [first, second] => some ((first, second), code)
    | _ => none

/-- The code point that two make together. -/
def pair? (first second : Nat) : Option Nat :=
  (syllable? first second).or pairTable[(first, second)]?

/-- Whether a code point cannot reach the base before it: the marks between, the last of which comes
first, hold one of at least its class. -/
def isBlocked (marks : List Nat) (code : Nat) : Bool :=
  match marks with
  | [] => false
  | last :: _ => combiningClass code ≤ combiningClass last

/-- Compose code points after a base, if there is one, and the marks that stay with it, the last of
which comes first. -/
def composeAfter : Option Nat → List Nat → List Nat → List Nat
  | base, marks, [] => base.toList ++ marks.reverse
  | none, marks, code :: rest =>
      if combiningClass code = 0 then marks.reverse ++ composeAfter (some code) [] rest
      else composeAfter none (code :: marks) rest
  | some base, marks, code :: rest =>
      match if isBlocked marks code then none else pair? base code with
      | some joined => composeAfter (some joined) marks rest
      | none =>
          if combiningClass code = 0 then
            base :: marks.reverse ++ composeAfter (some code) [] rest
          else composeAfter (some base) (code :: marks) rest

/-- The composed spelling of a text. In ASCII there is nothing to compose. -/
def compose (text : List Char) : List Char :=
  if text.all fun c => c.toNat < 0x80 then text
  else (composeAfter none [] (decompose (text.map Char.toNat))).map Char.ofNat

end SchemaGraph.Text
