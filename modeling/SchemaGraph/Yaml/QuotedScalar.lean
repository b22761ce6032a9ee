import SchemaGraph.Text.Digits
import SchemaGraph.Yaml.Gap

/-!
# Quoted scalars

In single quotes a doubled quote is a quote. In double quotes a backslash opens an escape, and one
before a line break hides the break. Line breaks are folded in both.
-/

namespace SchemaGraph.Yaml

/-- The character whose code point is given by `count` hexadecimal digits after the letter of an
escape, and the length of the escape after the backslash. -/
def numericEscape? (count : Nat) (text : List Char) : Option (Char × Nat) := do
  let digits := text.take count
  let value ← Text.number? 16 digits
  if digits.length < count ∨ (0xD800 ≤ value ∧ value ≤ 0xDFFF) ∨ 0x10FFFF < value then none
  else pure (Char.ofNat value, count + 1)

/-- The escapes of a single character. -/
def namedEscapes : List (Char × Char) :=
  [('0', '\x00'), ('a', '\x07'), ('b', '\x08'), ('t', '\t'), ('\t', '\t'), ('n', '\n'),
   ('v', '\x0b'), ('f', '\x0c'), ('r', '\r'), ('e', '\x1b'), (' ', ' '), ('"', '"'), ('/', '/'),
   ('\\', '\\'), ('N', '\u0085'), ('_', '\u00a0'), ('L', '\u2028'), ('P', '\u2029')]

/-- The character of an escape, and the length of the escape after the backslash. -/
def escape? : List Char → Option (Char × Nat)
  | 'x' :: rest => numericEscape? 2 rest
  | 'u' :: rest => numericEscape? 4 rest
  | 'U' :: rest => numericEscape? 8 rest
  | c :: _ => (namedEscapes.lookup c).map fun found => (found, 1)
  | [] => none

/-- What stands at a place inside a quoted scalar. -/
inductive QuotedPart where
  /-- The closing quote. -/
  | close
  /-- A character, written by the given number of characters. -/
  | char (c : Char) (width : Nat)
  /-- White space. -/
  | gap
  /-- An escaped line break. -/
  | hiddenBreak

/-- What stands at the start of a text inside double or single quotes. -/
def quotedPart? (double : Bool) : List Char → Option QuotedPart
  | [] => none
  | c :: rest =>
      if isBlank c || isBreak c then some .gap
      else if c = '\'' && !double then
        match rest with
        | '\'' :: _ => some (.char '\'' 2)
        | _ => some .close
      else if c = '"' && double then some .close
      else if c = '\\' && double then
        match rest with
        | next :: _ =>
            if isBreak next then some .hiddenBreak
            else (escape? rest).map fun (found, width) => .char found (width + 1)
        | [] => none
      else some (.char c 1)

/-- Read a quoted scalar after its opening quote, given what was already read in reverse. A document
marker may not stand in it. -/
def quotedRest? (double : Bool) : Nat → List Char → Cursor → Option (String × Cursor)
  | 0, _, _ => none
  | fuel + 1, acc, cursor =>
      if cursor.atDocumentMarker then none
      else do
        match ← quotedPart? double cursor.rest with
        | .close => pure (String.ofList acc.reverse, cursor.skip 1)
        | .char c width => quotedRest? double fuel (c :: acc) (cursor.skip width)
        | .gap => do
            let (gap, next) ← Gap.empty.after? 0 cursor
            quotedRest? double fuel (gap.text.reverse ++ acc) next
        | .hiddenBreak => do
            let (gap, next) ← Gap.escaped.after? 0 (cursor.skip 1).nextLine
            quotedRest? double fuel (gap.text.reverse ++ acc) next

/-- The quoted scalar at a place, and the place after it. -/
def quotedScalar? (double : Bool) (cursor : Cursor) : Option (String × Cursor) :=
  quotedRest? double (cursor.rest.length + 1) [] (cursor.skip 1)

end SchemaGraph.Yaml
