import SchemaGraph.Json.Value
import SchemaGraph.Text.Digits

/-!
# Reading JSON text

`Json.parse?` reads one value that fills the text. Repeated keys of an object are kept as they
are written, and `Json.lastWins` settles them. Whole numbers outside the exact range and all
numbers with a fraction or an exponent become floating point numbers. `Json.parseFields?` reads only
some fields of an object; of the values of the others only the form has to be right.
-/

namespace SchemaGraph.Json

/-- The white space of JSON. -/
def isBlank (c : Char) : Bool :=
  c = ' ' || c = '\t' || c = '\n' || c = '\r'

/-- The text after leading white space. -/
def skipBlanks (text : List Char) : List Char :=
  text.dropWhile isBlank

/-- The number written by four hexadecimal digits, with the rest of the text. -/
def readHex4 (text : List Char) : Option (Nat × List Char) :=
  let digits := text.take 4
  if digits.length = 4 then (Text.number? 16 digits).map fun unit => (unit, text.drop 4) else none

/-- The character of an escape after its backslash. A high surrogate has to be followed by the
escape of a low one. -/
def readEscape : List Char → Option (Char × List Char)
  | '"' :: rest => some ('"', rest)
  | '\\' :: rest => some ('\\', rest)
  | '/' :: rest => some ('/', rest)
  | 'b' :: rest => some ('\x08', rest)
  | 'f' :: rest => some ('\x0c', rest)
  | 'n' :: rest => some ('\n', rest)
  | 'r' :: rest => some ('\r', rest)
  | 't' :: rest => some ('\t', rest)
  | 'u' :: rest => do
      let (unit, rest) ← readHex4 rest
      if 0xD800 ≤ unit ∧ unit < 0xDC00 then
        match rest with
        | '\\' :: 'u' :: rest => do
            let (second, rest) ← readHex4 rest
            if 0xDC00 ≤ second ∧ second < 0xE000 then
              pure (Char.ofNat (0x10000 + (unit - 0xD800) * 0x400 + (second - 0xDC00)), rest)
            else none
        | _ => none
      else if 0xDC00 ≤ unit ∧ unit < 0xE000 then none
      else pure (Char.ofNat unit, rest)
  | _ => none

/-- The characters of a string up to its closing quote, given those already read in reverse. -/
def readString : Nat → List Char → List Char → Option (String × List Char)
  | 0, _, _ => none
  | fuel + 1, acc, text =>
      match text with
      | [] => none
      | '"' :: rest => some (String.ofList acc.reverse, rest)
      | '\\' :: rest => do
          let (c, rest) ← readEscape rest
          readString fuel (c :: acc) rest
      | c :: rest => if c.toNat < 0x20 then none else readString fuel (c :: acc) rest

/-- The digits after a decimal point, empty when there is no point. -/
def readFraction : List Char → Option (List Char × List Char)
  | '.' :: rest =>
      let (digits, rest) := rest.span Char.isDigit
      if digits.isEmpty then none else some (digits, rest)
  | text => some ([], text)

/-- The parts of a written number: its sign, the digits before and after its point, and its
exponent. -/
structure Numeral where
  negative : Bool
  whole : List Char
  fraction : List Char
  exponent : Option Int

/-- The parts of the number at the start of a text. -/
def readNumeral (text : List Char) : Option (Numeral × List Char) := do
  let (negative, text) := match text with
    | '-' :: rest => (true, rest)
    | _ => (false, text)
  let (whole, text) := text.span Char.isDigit
  match whole with
  | [] => none
  | '0' :: _ :: _ => none
  | _ =>
      let (fraction, text) ← readFraction text
      let (exponent, text) ← Text.readExponent text
      pure (⟨negative, whole, fraction, exponent⟩, text)

/-- A number continued by digits as long as it is below `2 ^ 64`, and the digits left over. -/
def takeDigits : Nat → List Char → Nat × List Char
  | value, [] => (value, [])
  | value, c :: rest =>
      let next := value * 10 + (c.toNat - '0'.toNat)
      if next ≤ greatestWhole then takeDigits next rest else (value, c :: rest)

/-- The number that a numeral writes: whole when it has neither fraction nor exponent, lies in the
exact range and is not a negative zero. For any other the digits that fit make a floating point
number, which is scaled by a power of ten: it may lie beside the nearest one. -/
def Numeral.value? (numeral : Numeral) : Option JsonNumber :=
  let (size, left) := takeDigits 0 numeral.whole
  let value : Int := if numeral.negative then -size else size
  let isWhole := left.isEmpty && numeral.fraction.isEmpty && numeral.exponent.isNone
  if isWhole && leastWhole ≤ value && !(numeral.negative && size = 0) then some (.whole value)
  else do
    let (digits, ignored) := takeDigits size numeral.fraction
    let significand ← Binary64.nearest numeral.negative digits 0
    let places : Int := numeral.fraction.length - ignored.length
    let exponent := numeral.exponent.getD 0 + left.length - places
    (significand.timesPower? exponent).map .binary

/-- A number at the start of a text. -/
def readNumber (text : List Char) : Option (JsonNumber × List Char) := do
  let (numeral, rest) ← readNumeral text
  let value ← numeral.value?
  pure (value, rest)

mutual

/-- A value at the start of a text. `depth` bounds the nesting that is still allowed. -/
def readValue : Nat → Nat → List Char → Option (Json × List Char)
  | 0, _, _ => none
  | fuel + 1, depth, text =>
      match skipBlanks text with
      | 'n' :: 'u' :: 'l' :: 'l' :: rest => some (.null, rest)
      | 't' :: 'r' :: 'u' :: 'e' :: rest => some (.bool true, rest)
      | 'f' :: 'a' :: 'l' :: 's' :: 'e' :: rest => some (.bool false, rest)
      | '"' :: rest => do
          let (text, rest) ← readString (rest.length + 1) [] rest
          pure (.string text, rest)
      | '[' :: rest =>
          match depth, skipBlanks rest with
          | 0, _ => none
          | _ + 1, ']' :: rest => some (.array [], rest)
          | depth + 1, rest => readItems fuel depth [] rest
      | '\x7b' :: rest =>
          match depth, skipBlanks rest with
          | 0, _ => none
          | _ + 1, '\x7d' :: rest => some (.object [], rest)
          | depth + 1, rest => readFields fuel depth [] rest
      | text => do
          let (value, rest) ← readNumber text
          pure (.number value, rest)

/-- The items of an array up to its closing bracket, given those already read in reverse. -/
def readItems : Nat → Nat → List Json → List Char → Option (Json × List Char)
  | 0, _, _, _ => none
  | fuel + 1, depth, acc, text => do
      let (value, rest) ← readValue fuel depth text
      match skipBlanks rest with
      | ',' :: rest => readItems fuel depth (value :: acc) rest
      | ']' :: rest => pure (.array (value :: acc).reverse, rest)
      | _ => none

/-- The fields of an object up to its closing brace, given those already read in reverse. -/
def readFields : Nat → Nat → List (String × Json) → List Char → Option (Json × List Char)
  | 0, _, _, _ => none
  | fuel + 1, depth, acc, text =>
      match skipBlanks text with
      | '"' :: rest => do
          let (key, rest) ← readString (rest.length + 1) [] rest
          match skipBlanks rest with
          | ':' :: rest => do
              let (value, rest) ← readValue fuel depth rest
              match skipBlanks rest with
              | ',' :: rest => readFields fuel depth ((key, value) :: acc) rest
              | '\x7d' :: rest => pure (.object ((key, value) :: acc).reverse, rest)
              | _ => none
          | _ => none
      | _ => none

end

/-- The value that a text holds, when it is nested no deeper than `depth` and nothing but white
space follows it. -/
def parse? (depth : Nat) (text : String) : Option Json :=
  let chars := text.toList
  match readValue (2 * chars.length + 2) depth chars with
  | some (value, rest) => if (skipBlanks rest).isEmpty then some value else none
  | none => none

/-- The text after the closing quote of a string. An escape may stand for any sixteen bits. -/
def skipString : List Char → Option (List Char)
  | [] => none
  | '"' :: rest => some rest
  | '\\' :: 'u' :: a :: b :: c :: d :: rest =>
      if (Text.number? 16 [a, b, c, d]).isSome then skipString rest else none
  | '\\' :: c :: rest => if "\"\\/bfnrt".toList.contains c then skipString rest else none
  | c :: rest => if c.toNat < 0x20 then none else skipString rest

mutual

/-- The text after a value at the start of a text, however deep it is. -/
def skipValue : Nat → List Char → Option (List Char)
  | 0, _ => none
  | fuel + 1, text =>
      match skipBlanks text with
      | 'n' :: 'u' :: 'l' :: 'l' :: rest => some rest
      | 't' :: 'r' :: 'u' :: 'e' :: rest => some rest
      | 'f' :: 'a' :: 'l' :: 's' :: 'e' :: rest => some rest
      | '"' :: rest => skipString rest
      | '[' :: rest =>
          match skipBlanks rest with
          | ']' :: rest => some rest
          | rest => skipItems fuel rest
      | '\x7b' :: rest =>
          match skipBlanks rest with
          | '\x7d' :: rest => some rest
          | rest => skipFields fuel rest
      | text => (readNumeral text).map Prod.snd

/-- The text after the items of an array and its closing bracket. -/
def skipItems : Nat → List Char → Option (List Char)
  | 0, _ => none
  | fuel + 1, text => do
      let rest ← skipValue fuel text
      match skipBlanks rest with
      | ',' :: rest => skipItems fuel rest
      | ']' :: rest => pure rest
      | _ => none

/-- The text after the fields of an object and its closing brace. -/
def skipFields : Nat → List Char → Option (List Char)
  | 0, _ => none
  | fuel + 1, text =>
      match skipBlanks text with
      | '"' :: rest => do
          let rest ← skipString rest
          match skipBlanks rest with
          | ':' :: rest => do
              let rest ← skipValue fuel rest
              match skipBlanks rest with
              | ',' :: rest => skipFields fuel rest
              | '\x7d' :: rest => pure rest
              | _ => none
          | _ => none
      | _ => none

end

/-- The wanted fields of an object up to its closing brace, given those already read in reverse. -/
def readWanted (wanted : String → Bool) :
    Nat → Nat → List (String × Json) → List Char → Option (List (String × Json) × List Char)
  | 0, _, _, _ => none
  | fuel + 1, depth, acc, text =>
      match skipBlanks text with
      | '"' :: rest => do
          let (key, rest) ← readString (rest.length + 1) [] rest
          match skipBlanks rest with
          | ':' :: rest => do
              let (acc, rest) ←
                if wanted key then
                  (readValue fuel depth rest).map fun (value, rest) => ((key, value) :: acc, rest)
                else (skipValue fuel rest).map fun rest => (acc, rest)
              match skipBlanks rest with
              | ',' :: rest => readWanted wanted fuel depth acc rest
              | '\x7d' :: rest => pure (acc.reverse, rest)
              | _ => none
          | _ => none
      | _ => none

/-- The wanted fields of the object that a text holds, with values nested no deeper than `depth`. -/
def parseFields? (wanted : String → Bool) (depth : Nat) (text : String) :
    Option (List (String × Json)) :=
  let fuel := 2 * text.length + 2
  let fields :=
    match skipBlanks text.toList with
    | '\x7b' :: rest =>
        match skipBlanks rest with
        | '\x7d' :: rest => some ([], rest)
        | rest => readWanted wanted fuel depth [] rest
    | _ => none
  match fields with
  | some (fields, rest) => if (skipBlanks rest).isEmpty then some fields else none
  | none => none

mutual

/-- Keep one entry for each key of every object: the last value, at the first one's place. -/
def lastWins : Json → Json
  | .array items => .array (lastWinsItems items)
  | .object fields => .object (Keyed.ofList (lastWinsFields fields))
  | value => value

/-- `lastWins` on every item. -/
def lastWinsItems : List Json → List Json
  | [] => []
  | value :: rest => lastWins value :: lastWinsItems rest

/-- `lastWins` on every field's value. -/
def lastWinsFields : List (String × Json) → List (String × Json)
  | [] => []
  | (key, value) :: rest => (key, lastWins value) :: lastWinsFields rest

end

end SchemaGraph.Json
