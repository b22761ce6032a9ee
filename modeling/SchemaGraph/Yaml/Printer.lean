import SchemaGraph.Json.Printer
import SchemaGraph.Yaml.Cursor
import SchemaGraph.Yaml.Scalar

/-!
# Writing YAML text

`Yaml.print` writes a value in block style, two columns a level. A sequence under a key is not
indented, empty collections are written as `[]` and braces. A text is written plainly where that
reads back as the same text, as a literal block when it has a line feed, and otherwise in single
quotes, or in double quotes when single ones cannot hold it.
-/

namespace SchemaGraph.Yaml

/-- Whether a character is written as it is. -/
def isPrintable (c : Char) : Bool :=
  let code := c.toNat
  c = '\n' || (0x20 ≤ code && code ≤ 0x7E)
    || (0xA0 ≤ code && code ≤ 0xFFFD && code ≠ 0xFEFF) || 0x10000 ≤ code

/-- Whether two characters of given classes stand side by side. -/
def hasPair (before after : Char → Bool) (text : List Char) : Bool :=
  (text.zip (text.drop 1)).any fun pair => before pair.1 && after pair.2

/-- Whether a text holds what would end a plain scalar: a colon before a gap, or a comment. -/
def hidesMark : Bool → List Char → Bool
  | _, [] => false
  | afterGap, c :: rest =>
      (c = ':' && atGap rest) || (c = '#' && afterGap) || hidesMark (isBlank c || isBreak c) rest

/-- The characters that no plain scalar begins with. -/
def isOpeningMark (c : Char) : Bool :=
  "#,[]\x7b\x7d&*!|>'\"%@".toList.contains c || c.toNat = 0x60

/-- Whether a text begins with what no plain scalar begins with. -/
def beginsWithMark : List Char → Bool
  | [] => false
  | c :: rest =>
      isOpeningMark c || ((c = '?' || c = ':' || c = '-') && atGap rest)
        || ["---".toList, "...".toList].contains (c :: rest.take 2)

/-- Whether a text begins or ends with a character of a class. -/
def touchesEnd (holds : Char → Bool) (text : List Char) : Bool :=
  text.head?.any holds || text.getLast?.any holds

/-- Whether a text has a blank at its start or end, or a break anywhere. -/
def needsQuotes (text : List Char) : Bool :=
  touchesEnd (· = ' ') text || text.any isBreak || text.any (!isPrintable ·)
    || beginsWithMark text || hidesMark true text

/-- Whether single quotes can hold a text: no character needs an escape, and no space stands beside
a line break. -/
def fitsSingleQuotes (text : List Char) : Bool :=
  text.all isPrintable && !hasPair isBreak (· = ' ') text && !hasPair (· = ' ') isBreak text

/-- Whether a literal block can hold a text: no character needs an escape, and no line ends with a
space. -/
def fitsLiteral (text : List Char) : Bool :=
  text.all isPrintable && !hasPair (· = ' ') isBreak text && text.getLast? ≠ some ' '

/-- The ways to write a text. -/
inductive TextStyle where
  | plain
  | singleQuotes
  | doubleQuotes
  | literal
  deriving DecidableEq, Repr

/-- Whether a plain scalar with the given text would not be read as that text. -/
def readsAsOther (text : String) : Bool :=
  isZeroPadded text.toList ||
    match plainValue? text with
    | some (.string _) => false
    | _ => true

/-- The style of a text. -/
def styleOf (text : String) : TextStyle :=
  let chars := text.toList
  if chars.contains '\n' then
    if fitsLiteral chars then .literal else .doubleQuotes
  else if readsAsOther text || needsQuotes chars then
    if fitsSingleQuotes chars then .singleQuotes else .doubleQuotes
  else .plain

/-- Blanks for an indentation. -/
def blanks (count : Nat) : List Char :=
  List.replicate count ' '

/-- The lines of a text at an indentation, which empty lines do not have. -/
def indentLines (indentation : Nat) : (atStart : Bool) → List Char → List Char
  | _, [] => []
  | atStart, c :: rest =>
      if isBreak c then c :: indentLines indentation true rest
      else (if atStart then blanks indentation else []) ++ c :: indentLines indentation false rest

/-- A text in single quotes, with its quotes doubled and its further lines indented. -/
def singleQuoted (indentation : Nat) (text : List Char) : List Char :=
  let doubled := text.flatMap fun c => if c = '\'' then ['\'', '\''] else [c]
  let tail := if doubled.getLast?.any isBreak then blanks indentation else []
  '\'' :: indentLines indentation false doubled ++ tail ++ ['\'']

/-- The upper case hexadecimal digits of a number, at a fixed width. -/
def hexDigits : Nat → Nat → List Char
  | 0, _ => []
  | width + 1, value => hexDigits width (value / 16) ++ [Text.upperHexDigit (value % 16)]

/-- The escapes with a name of their own. -/
def escapeNames : List (Char × Char) :=
  [('\x00', '0'), ('\x07', 'a'), ('\x08', 'b'), ('\t', 't'), ('\n', 'n'), ('\x0b', 'v'),
   ('\x0c', 'f'), ('\r', 'r'), ('\x1b', 'e'), ('"', '"'), ('\\', '\\'), ('\u0085', 'N'),
   ('\u00a0', '_'), ('\u2028', 'L'), ('\u2029', 'P')]

/-- The escape of a character. -/
def escaped (c : Char) : List Char :=
  let code := c.toNat
  '\\' :: match escapeNames.lookup c with
    | some name => [name]
    | none =>
        if code ≤ 0xFF then 'x' :: hexDigits 2 code
        else if code ≤ 0xFFFF then 'u' :: hexDigits 4 code
        else 'U' :: hexDigits 8 code

/-- A text in double quotes. -/
def doubleQuoted (text : List Char) : List Char :=
  let shown (c : Char) : List Char :=
    if isPrintable c && !isBreak c && c ≠ '"' && c ≠ '\\' then [c] else escaped c
  '"' :: text.flatMap shown ++ ['"']

/-- The header of a literal block: the indentation when the text hides it, and what becomes of its
last line breaks. -/
def literalHeader (text : List Char) : List Char :=
  let hint := if text.head?.any fun c => c = ' ' || isBreak c then ['2'] else []
  let chomping := match text.reverse with
    | [] => ['-']
    | [c] => if isBreak c then ['+'] else ['-']
    | c :: before :: _ => if isBreak c then if isBreak before then ['+'] else [] else ['-']
  '|' :: hint ++ chomping ++ ['\n']

/-- A scalar, without a line feed at its end. `indentation` is that of its further lines. -/
def scalarText (indentation : Nat) (text : String) : List Char :=
  let chars := text.toList
  match styleOf text with
  | .plain => chars
  | .singleQuotes => singleQuoted indentation chars
  | .doubleQuotes => doubleQuoted chars
  | .literal => literalHeader chars ++ indentLines indentation true chars

/-- A text with a line break at its end. -/
def endLine (text : List Char) : List Char :=
  if text.getLast?.any isBreak then text else text ++ ['\n']

/-- Whether a text can be a key before a colon: one line of at most 128 octets. Characters that are
read as line breaks count as such. -/
def isSimpleKey (text : String) : Bool :=
  !(normalBreaks text.toList).any isBreak && text.utf8ByteSize ≤ 128

/-- The text of a scalar or an empty collection. -/
def leafText (indentation : Nat) : Json → List Char
  | .string text => scalarText indentation text
  | value => value.compact.toList

/-- What stands between the colon after a key at an indentation and the value, and the indentation
of the value. A collection begins on a new line. -/
def contentPlace (indentation : Nat) : Json → List Char × Nat
  | .array (_ :: _) => ('\n' :: blanks indentation, indentation)
  | .object (_ :: _) => ('\n' :: blanks (indentation + 2), indentation + 2)
  | _ => ([' '], indentation + 2)

/-- What stands before the value of an entry, and the indentation of the value. A key that is not
simple has a line of its own. -/
def entryStart (indentation : Nat) (key : String) (content : Json) : List Char × Nat :=
  if isSimpleKey key then
    let (gap, inner) := contentPlace indentation content
    (scalarText indentation key ++ ':' :: gap, inner)
  else
    ('?' :: ' ' :: endLine (scalarText (indentation + 2) key)
      ++ blanks indentation ++ [':', ' '], indentation + 2)

mutual

/-- The lines of a value at an indentation, the first without it. -/
def blockText (indentation : Nat) : Json → List Char
  | .array (item :: rest) =>
      (blanks indentation).intercalate (itemTexts indentation (item :: rest))
  | .object (field :: rest) =>
      (blanks indentation).intercalate (entryTexts indentation (field :: rest))
  | value => endLine (leafText indentation value)

/-- The lines of each item of a sequence. -/
def itemTexts (indentation : Nat) : List Json → List (List Char)
  | [] => []
  | item :: rest =>
      ('-' :: ' ' :: blockText (indentation + 2) item) :: itemTexts indentation rest

/-- The lines of each entry of a mapping. -/
def entryTexts (indentation : Nat) : List (String × Json) → List (List Char)
  | [] => []
  | (key, content) :: rest =>
      let (start, inner) := entryStart indentation key content
      (start ++ blockText inner content) :: entryTexts indentation rest

end

/-- The text of a value. -/
def print (value : Json) : String :=
  String.ofList (blockText 0 value)

end SchemaGraph.Yaml
