/-!
# A place in a YAML text

A `Cursor` is the text still to be read, with the line and the column of its first character.
`Cursor.start?` refuses a text with a character that YAML does not allow and writes every line break
as a line feed. The two Unicode separators stay as they are, since they are line breaks that folding
keeps.
-/

namespace SchemaGraph.Yaml

/-- Whether a character may stand in a text. -/
def isAllowed (c : Char) : Bool :=
  let code := c.toNat
  c = '\t' || c = '\n' || c = '\r' || (0x20 ≤ code && code ≤ 0x7E) || code = 0x85
    || (0xA0 ≤ code && code ≤ 0xFFFD) || 0x10000 ≤ code

/-- A space or a tab. -/
def isBlank (c : Char) : Bool :=
  c = ' ' || c = '\t'

/-- A line break, in a text whose line breaks are brought to one form. -/
def isBreak (c : Char) : Bool :=
  c = '\n' || c = '\u2028' || c = '\u2029'

/-- A character of anchors, tag handles and directive names. -/
def isWord (c : Char) : Bool :=
  c.isAlphanum || c = '_' || c = '-'

/-- Write carriage returns, with or without a line feed, and next line characters as line feeds. -/
def normalBreaks : List Char → List Char
  | '\r' :: '\n' :: rest => '\n' :: normalBreaks rest
  | c :: rest => (if c = '\r' || c.toNat = 0x85 then '\n' else c) :: normalBreaks rest
  | [] => []

/-- Whether a text is at its end, or goes on with a character of a class. -/
def endsOr (holds : Char → Bool) : List Char → Bool
  | [] => true
  | c :: _ => holds c

/-- Whether a text is at its end, a blank or a line break. -/
def atGap (text : List Char) : Bool :=
  endsOr (fun c => isBlank c || isBreak c) text

/-- The text still to be read, and the place of its first character. -/
structure Cursor where
  rest : List Char
  line : Nat
  column : Nat

namespace Cursor

/-- The start of a text whose characters are all allowed. -/
def start? (text : String) : Option Cursor :=
  if text.toList.all isAllowed then some ⟨normalBreaks text.toList, 0, 0⟩ else none

/-- Pass over characters of one line. -/
def skip (cursor : Cursor) (count : Nat) : Cursor :=
  ⟨cursor.rest.drop count, cursor.line, cursor.column + count⟩

/-- Pass over a line break. -/
def nextLine (cursor : Cursor) : Cursor :=
  ⟨cursor.rest.drop 1, cursor.line + 1, 0⟩

/-- The characters of a class at a place, which hold no line break, and the place after them. -/
def span (cursor : Cursor) (holds : Char → Bool) : List Char × Cursor :=
  let found := cursor.rest.takeWhile holds
  (found, cursor.skip found.length)

/-- Pass over characters of a class that holds no line break. -/
def skipWhile (cursor : Cursor) (holds : Char → Bool) : Cursor :=
  (cursor.span holds).2

/-- Pass over a byte order mark at the start of a line. It takes a column. -/
def skipByteOrderMark (cursor : Cursor) : Cursor :=
  if cursor.column = 0 && cursor.rest.head? = some '\uFEFF' then cursor.skip 1 else cursor

/-- Pass over a comment, which ends at a line break. -/
def skipComment (cursor : Cursor) : Cursor :=
  match cursor.rest with
  | '#' :: _ => cursor.skipWhile fun c => !isBreak c
  | _ => cursor

/-- Pass over blanks, a comment and the line break after them. Nothing else may stand there. -/
def finishLine? (cursor : Cursor) : Option Cursor :=
  let cursor := (cursor.skipWhile isBlank).skipComment
  match cursor.rest with
  | [] => some cursor
  | c :: _ => if isBreak c then some cursor.nextLine else none

/-- Whether the place is the start of a line with the given three characters and a gap after
them. -/
def atMarker (cursor : Cursor) (c : Char) : Bool :=
  cursor.column = 0 && cursor.rest.take 3 = [c, c, c] && atGap (cursor.rest.drop 3)

/-- Whether the place is the start of a document marker. -/
def atDocumentMarker (cursor : Cursor) : Bool :=
  cursor.atMarker '-' || cursor.atMarker '.'

end Cursor

end SchemaGraph.Yaml
