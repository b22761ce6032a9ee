import SchemaGraph.Json.Value
import SchemaGraph.Text.Digits
import SchemaGraph.Yaml.Node

/-!
# What scalars stand for

A plain scalar without a tag is null, a Boolean, a whole number, a floating point number or a text,
by how it looks. `plainValue?` has no answer for a whole number that fits 128 bits but not 64. Core
tags say which type a scalar has, and `scalarValue?` has no answer when it does not look like it.
-/

namespace SchemaGraph.Yaml

/-- Whether a text is a word for null. -/
def isNullWord (text : String) : Bool :=
  ["null", "Null", "NULL", "~"].contains text

/-- The Boolean that a text is a word for. -/
def boolWord? (text : String) : Option Bool :=
  if ["true", "True", "TRUE"].contains text then some true
  else if ["false", "False", "FALSE"].contains text then some false
  else none

/-- Whether a text consists of digits with a needless zero in front, which makes it no number. -/
def isZeroPadded (text : List Char) : Bool :=
  match (Text.readSign text).2 with
  | '0' :: rest => !rest.isEmpty && rest.all Char.isDigit
  | _ => false

/-- The number that digits of a base write. -/
def digitsIn? (base : Nat) (digits : List Char) : Option Nat :=
  if digits.isEmpty then none else Text.number? base digits

/-- The number that a text without a sign writes, in one of four bases. -/
def unsignedNumber? : List Char → Option Nat
  | '0' :: 'x' :: digits => digitsIn? 16 digits
  | '0' :: 'o' :: digits => digitsIn? 8 digits
  | '0' :: 'b' :: digits => digitsIn? 2 digits
  | digits => digitsIn? 10 digits

/-- The least whole number of 128 bits. -/
def leastWide : Int := -(Int.pow 2 127)

/-- The greatest whole number of 128 bits. -/
def greatestWide : Int := Int.pow 2 128 - 1

/-- The whole number of at most 128 bits that a text writes. -/
def wholeNumber? (text : List Char) : Option Int :=
  if isZeroPadded text then none
  else do
    let (negative, digits) := Text.readSign text
    let size ← unsignedNumber? digits
    let value : Int := if negative then -size else size
    if leastWide ≤ value ∧ value ≤ greatestWide then some value else none

/-- The finite floating point number that a text writes: digits, of which those before or those
after the point may be missing, and perhaps an exponent. -/
def finiteNumber? (text : List Char) : Option Binary64 := do
  let (negative, text) := Text.readSign text
  let (whole, text) := text.span Char.isDigit
  let (fraction, text) := match text with
    | '.' :: rest => rest.span Char.isDigit
    | _ => ([], text)
  let (exponent, rest) ← Text.readExponent text
  if (whole.isEmpty && fraction.isEmpty) || !rest.isEmpty then none
  else
    Binary64.nearest negative (Text.decimalValue (whole ++ fraction))
      (exponent.getD 0 - fraction.length)

/-- Whether a text is a word for a floating point value that is not finite. -/
def isInfinityOrNaN (text : String) : Bool :=
  [".inf", ".Inf", ".INF", "+.inf", "+.Inf", "+.INF", "-.inf", "-.Inf", "-.INF",
   ".nan", ".NaN", ".NAN"].contains text

/-- The floating point number that a text writes. One that is not finite becomes null. -/
def floatValue? (text : String) : Option Json :=
  if isInfinityOrNaN text then some .null
  else (finiteNumber? text.toList).map fun value => .number (.binary value)

/-- The value of a whole number, if it fits 64 bits. -/
def wholeValue? (value : Int) : Option Json :=
  if Json.leastWhole ≤ value ∧ value ≤ Json.greatestWhole then some (.number (.whole value))
  else none

/-- What a plain scalar without a tag stands for. -/
def plainValue? (text : String) : Option Json :=
  if text.isEmpty || isNullWord text then some .null
  else
    match boolWord? text, wholeNumber? text.toList with
    | some value, _ => some (.bool value)
    | none, some value => wholeValue? value
    | none, none =>
        if isZeroPadded text.toList then some (.string text)
        else some ((floatValue? text).getD (.string text))

/-- Whether a tag is one that only the writer of a document knows. -/
def isLocalTag (tag : String) : Bool :=
  tag.toList.head? = some '!'

/-- What a scalar stands for. A local tag has no meaning here. -/
def scalarValue? (tag : Option String) (text : String) (style : ScalarStyle) : Option Json :=
  match tag with
  | none => if style = .plain then plainValue? text else some (.string text)
  | some tag =>
      if isLocalTag tag then none
      else if tag = Document.coreTag "null" then
        if isNullWord text then some .null else none
      else if tag = Document.coreTag "bool" then (boolWord? text).map .bool
      else if tag = Document.coreTag "int" then (wholeNumber? text.toList).bind wholeValue?
      else if tag = Document.coreTag "float" then floatValue? text
      else some (.string text)

end SchemaGraph.Yaml
