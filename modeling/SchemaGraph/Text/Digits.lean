/-!
# Digits

Numbers as they are written with ASCII digits, in a base of at most sixteen, and the exponent that
may follow a decimal number.
-/

namespace SchemaGraph.Text

/-- The value of a digit of a base. -/
def digit? (base : Nat) (c : Char) : Option Nat := do
  let value ←
    if c.isDigit then some (c.toNat - '0'.toNat)
    else if 'a' ≤ c ∧ c ≤ 'f' then some (c.toNat - 'a'.toNat + 10)
    else if 'A' ≤ c ∧ c ≤ 'F' then some (c.toNat - 'A'.toNat + 10)
    else none
  if value < base then some value else none

/-- The number that digits of a base write. No digits write zero. -/
def number? (base : Nat) (digits : List Char) : Option Nat :=
  digits.foldlM (fun acc c => (digit? base c).map (acc * base + ·)) 0

/-- The number written by decimal digits. -/
def decimalValue (digits : List Char) : Nat :=
  digits.foldl (fun acc c => acc * 10 + (c.toNat - '0'.toNat)) 0

/-- The lower case hexadecimal digit of a number below sixteen. -/
def hexDigit (value : Nat) : Char :=
  if value < 10 then Char.ofNat ('0'.toNat + value) else Char.ofNat ('a'.toNat + value - 10)

/-- The upper case hexadecimal digit of a number below sixteen. -/
def upperHexDigit (value : Nat) : Char :=
  if value < 10 then Char.ofNat ('0'.toNat + value) else Char.ofNat ('A'.toNat + value - 10)

/-- Whether a text starts with a minus, and the text after its sign. -/
def readSign (text : List Char) : Bool × List Char :=
  match text with
  | '-' :: rest => (true, rest)
  | '+' :: rest => (false, rest)
  | _ => (false, text)

/-- The exponent at the start of a text, if there is one, and the text after it. The letter of an
exponent needs digits. -/
def readExponent (text : List Char) : Option (Option Int × List Char) :=
  match text with
  | [] => some (none, text)
  | c :: rest =>
      if c = 'e' ∨ c = 'E' then
        let (negative, rest) := readSign rest
        let (digits, rest) := rest.span Char.isDigit
        let size : Int := decimalValue digits
        if digits.isEmpty then none else some (some (if negative then -size else size), rest)
      else some (none, text)

end SchemaGraph.Text
