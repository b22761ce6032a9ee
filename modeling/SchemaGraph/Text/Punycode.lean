/-!
# Punycode

A text in ASCII letters, digits and hyphens for one with other characters: `Punycode.encode` writes
the ASCII characters, a hyphen, and then for each other character, in the order of their code
points, the number of steps to it, where a step leads to the next place in the text and from its end
to the next code point. `Punycode.decode?` reads such a text.

A number is written with digits of base 36, the lowest first. The last digit is the first that is
below its threshold; thresholds follow a bias that adapts to the size of the numbers.
-/

namespace SchemaGraph.Text.Punycode

/-- The number of digits. -/
def base : Nat := 36

/-- The least threshold of a digit. -/
def leastThreshold : Nat := 1

/-- The greatest threshold of a digit. -/
def greatestThreshold : Nat := 26

/-- The bias before any number. -/
def initialBias : Nat := 72

/-- The first code point that is written as a number. -/
def firstCode : Nat := 0x80

/-- The bound of the numbers that are read. -/
def numberBound : Nat := Nat.pow 2 32

/-- The digit of a value below the base. -/
def digit (value : Nat) : Char :=
  if value < 26 then Char.ofNat ('a'.toNat + value) else Char.ofNat ('0'.toNat + value - 26)

/-- The value of a digit, in either letter case. -/
def digitValue? (c : Char) : Option Nat :=
  if c.isLower then some (c.toNat - 'a'.toNat)
  else if c.isUpper then some (c.toNat - 'A'.toNat)
  else if c.isDigit then some (c.toNat - '0'.toNat + 26)
  else none

/-- The threshold of the digit at a place, given as `base` times the place counted from one. -/
def threshold (bias place : Nat) : Nat :=
  max leastThreshold (min greatestThreshold (place - bias))

/-- A threshold is positive and below the base. -/
theorem threshold_bounds (bias place : Nat) :
    0 < threshold bias place ∧ threshold bias place < base := by
  simp only [threshold, leastThreshold, greatestThreshold, base]
  omega

/-- The bias for a number of this size, scaled down, with the bias of the divisions so far. -/
def biasOf (size divided : Nat) : Nat :=
  if (base - leastThreshold) * greatestThreshold / 2 < size then
    biasOf (size / (base - leastThreshold)) (divided + base)
  else divided + base * size / (size + 38)
termination_by size
decreasing_by exact Nat.div_lt_self (by simp only [base, leastThreshold] at *; omega) (by decide)

/-- The bias after a number. The first one is taken for smaller, since it also leads to the first
code point; `count` is the number of characters that are in place. -/
def nextBias (number count : Nat) (isFirst : Bool) : Nat :=
  let size := if isFirst then number / 700 else number / 2
  biasOf (size + size / count) 0

/-- The digits of a number from a place on. -/
def numberDigits (bias place number : Nat) : List Char :=
  let t := threshold bias place
  if number < t then [digit number]
  else
    digit (t + (number - t) % (base - t)) ::
      numberDigits bias (place + base) ((number - t) / (base - t))
termination_by number
decreasing_by
  have := threshold_bounds bias place
  exact Nat.lt_of_le_of_lt (Nat.div_le_self _ _) (by omega)

/-- What has been written of a text: the digits, the steps since the last number, the bias, and the
number of characters in place. -/
structure Written where
  digits : List Char
  steps : Nat
  bias : Nat
  count : Nat

/-- Pass a character of the text while those of one code point are written. -/
def Written.pass (code : Nat) (written : Written) (c : Char) : Written :=
  if c.toNat < code then { written with steps := written.steps + 1 }
  else if c.toNat = code then
    { digits := written.digits ++ numberDigits written.bias base written.steps
      steps := 0
      bias := nextBias written.steps (written.count + 1) written.digits.isEmpty
      count := written.count + 1 }
  else written

/-- Write the characters of the given code points, which ascend from `start` on. -/
def writeCodes (text : List Char) (start : Nat) : List Nat → Written → Written
  | [], written => written
  | code :: rest, written =>
      let reached :=
        { written with steps := written.steps + (code - start) * (written.count + 1) }
      let passed := text.foldl (Written.pass code) reached
      writeCodes text (code + 1) rest { passed with steps := passed.steps + 1 }

/-- The text in ASCII. -/
def encode (text : List Char) : List Char :=
  let basic := text.filter (·.toNat < firstCode)
  let codes := ((text.filter (firstCode ≤ ·.toNat)).map Char.toNat).mergeSort.eraseReps
  let written := writeCodes text firstCode codes ⟨[], 0, initialBias, basic.length⟩
  basic ++ (if basic.isEmpty then [] else ['-']) ++ written.digits

/-- Add a number, read from a place on where digits have a weight, to the steps so far. The rest of
the text is shorter. -/
def readNumber? (bias : Nat) :
    (place weight steps : Nat) → (text : List Char) →
      Option (Nat × { rest : List Char // rest.length < text.length })
  | _, _, _, [] => none
  | place, weight, steps, c :: text =>
      match digitValue? c with
      | none => none
      | some value =>
          let t := threshold bias place
          let reached := steps + value * weight
          if numberBound ≤ reached then none
          else if value < t then some (reached, ⟨text, Nat.lt_succ_self _⟩)
          else if numberBound ≤ weight * (base - t) then none
          else
            (readNumber? bias (place + base) (weight * (base - t)) reached text).map
              fun (number, ⟨rest, h⟩) => (number, ⟨rest, Nat.lt_succ_of_lt h⟩)

/-- Read the numbers of a text and put their characters among those in place. -/
def readCodes? (bias code steps : Nat) (placed : List Char) (text : List Char) :
    Option (List Char) :=
  if text.isEmpty then some placed
  else
    match readNumber? bias base 1 steps text with
    | none => none
    | some (reached, ⟨rest, _⟩) =>
        let count := placed.length + 1
        let found := code + reached / count
        let place := reached % count
        if found.isValidChar then
          readCodes? (nextBias (reached - steps) count (steps = 0)) found (place + 1)
            (placed.insertIdx place (Char.ofNat found)) rest
        else none
termination_by text.length

/-- The text that is written in ASCII, if one is. -/
def decode? (text : List Char) : Option (List Char) :=
  let digits := (text.reverse.takeWhile (· ≠ '-')).reverse
  let basic := text.take (text.length - digits.length - 1)
  readCodes? initialBias firstCode 0 basic (if basic.isEmpty then text else digits)

end SchemaGraph.Text.Punycode
