import SchemaGraph.Json.Value
import SchemaGraph.Text.Digits

/-!
# Writing JSON text

`Json.compact` writes a value on one line without blanks, `Json.pretty` one field or item a line,
indented by two blanks a level. A floating point number always shows a fraction or an exponent;
the exponent form is used when the power of ten of its first digit is below `-5` or at least `16`.
-/

namespace SchemaGraph

/-- Where the exponent form of a floating point number starts. -/
structure NumberFormat where
  /-- The least power of ten of the first digit that is written without an exponent. -/
  leastPlain : Int
  /-- The greatest power of ten of the first digit that is written without an exponent. -/
  greatestPlain : Int

namespace Json

/-- Numbers between one hundred-thousandth and ten to the sixteenth are written in full. -/
def numberFormat : NumberFormat := ⟨-5, 15⟩

/-- The digits of a number in full, with at least one on each side of the point. -/
def plainDigits (digits : List Char) (magnitude : Int) : List Char :=
  if magnitude < 0 then
    ['0', '.'] ++ List.replicate (-magnitude - 1).toNat '0' ++ digits
  else
    let places := magnitude.toNat + 1
    let whole := digits.take places ++ List.replicate (places - digits.length) '0'
    let fraction := digits.drop places
    whole ++ '.' :: (if fraction.isEmpty then ['0'] else fraction)

/-- The digits of a number with an exponent, the sign of which is always written. -/
def exponentDigits (digits : List Char) (magnitude : Int) : List Char :=
  let fraction := digits.drop 1
  let mantissa := digits.take 1 ++ (if fraction.isEmpty then [] else '.' :: fraction)
  let sign := if magnitude < 0 then '-' else '+'
  mantissa ++ ['e', sign] ++ Nat.toDigits 10 magnitude.natAbs

/-- The text of a floating point number. -/
def binaryText (x : Binary64) : String :=
  let (digits, magnitude) := x.scientific
  let sign := if x.negative then ['-'] else []
  let plain := numberFormat.leastPlain ≤ magnitude ∧ magnitude ≤ numberFormat.greatestPlain
  String.ofList (sign ++
    if plain then plainDigits digits magnitude else exponentDigits digits magnitude)

/-- The text of a number. -/
def numberText : JsonNumber → String
  | .whole value => toString value
  | .binary value => binaryText value

/-- A character inside a quoted string. Quote, backslash and control characters are escaped. -/
def escapeChar (c : Char) : List Char :=
  if c = '"' then ['\\', '"']
  else if c = '\\' then ['\\', '\\']
  else if c = '\x08' then ['\\', 'b']
  else if c = '\x0c' then ['\\', 'f']
  else if c = '\n' then ['\\', 'n']
  else if c = '\r' then ['\\', 'r']
  else if c = '\t' then ['\\', 't']
  else if c.toNat < 0x20 then
    ['\\', 'u', '0', '0', Text.hexDigit (c.toNat / 16), Text.hexDigit (c.toNat % 16)]
  else [c]

/-- A text in quotes. -/
def quote (text : String) : String :=
  String.ofList ('"' :: text.toList.flatMap escapeChar ++ ['"'])

mutual

/-- The value on one line without blanks. -/
def compact : Json → String
  | .null => "null"
  | .bool true => "true"
  | .bool false => "false"
  | .number value => numberText value
  | .string value => quote value
  | .array items => "[" ++ ",".intercalate (compactItems items) ++ "]"
  | .object fields => "\x7b" ++ ",".intercalate (compactFields fields) ++ "\x7d"

/-- The texts of the items of an array. -/
def compactItems : List Json → List String
  | [] => []
  | value :: rest => compact value :: compactItems rest

/-- The texts of the fields of an object. -/
def compactFields : List (String × Json) → List String
  | [] => []
  | (key, value) :: rest => (quote key ++ ":" ++ compact value) :: compactFields rest

end

/-- A line break followed by the blanks of a level. -/
def lineBreak (level : Nat) : String :=
  String.ofList ('\n' :: List.replicate (2 * level) ' ')

/-- The parts of a bracketed value, each on a line of its own. -/
def bracketed (level : Nat) (opening closing : String) (parts : List String) : String :=
  if parts.isEmpty then opening ++ closing
  else
    let inner := lineBreak (level + 1)
    opening ++ inner ++ ("," ++ inner).intercalate parts ++ lineBreak level ++ closing

mutual

/-- The value over several lines, its first line continuing one at the given level. -/
def prettyAt (level : Nat) : Json → String
  | .array items => bracketed level "[" "]" (prettyItems (level + 1) items)
  | .object fields => bracketed level "\x7b" "\x7d" (prettyFields (level + 1) fields)
  | value => compact value

/-- The texts of the items of an array at a level. -/
def prettyItems (level : Nat) : List Json → List String
  | [] => []
  | value :: rest => prettyAt level value :: prettyItems level rest

/-- The texts of the fields of an object at a level. -/
def prettyFields (level : Nat) : List (String × Json) → List String
  | [] => []
  | (key, value) :: rest => (quote key ++ ": " ++ prettyAt level value) :: prettyFields level rest

end

/-- The value over several lines, indented by two blanks a level. -/
def pretty (value : Json) : String :=
  prettyAt 0 value

end Json

end SchemaGraph
