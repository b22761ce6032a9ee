import SchemaGraph.Text.Digits
import SchemaGraph.Text.Octets
import SchemaGraph.Yaml.Cursor
import SchemaGraph.Yaml.Token

/-!
# Anchors, tags and directives

The readers of the tokens that come before a node, and of the directives that come before a
document. Percent escapes in tags have to write whole characters.
-/

namespace SchemaGraph.Yaml

namespace Cursor

/-- The place from which only `rest` is still to be read, on the same line. -/
def upTo (cursor : Cursor) (rest : List Char) : Cursor :=
  cursor.skip (cursor.rest.length - rest.length)

end Cursor

/-- Whether a character may end the name of an anchor without a gap. -/
def endsAnchor (c : Char) : Bool :=
  c = '?' || c = ':' || c = ',' || c = ']' || c = '\x7d' || c = '%' || c = '@' || c.toNat = 0x60

/-- The name after the mark of an anchor or an alias. -/
def anchorName? (cursor : Cursor) : Option (String × Cursor) :=
  let (name, next) := (cursor.skip 1).span isWord
  if name.isEmpty then none
  else if atGap next.rest || endsOr endsAnchor next.rest then some (String.ofList name, next)
  else none

/-- A character of the part of a tag after its handle. Commas and brackets belong to it only in a
verbatim tag or a directive. -/
def isTagChar (wide : Bool) (c : Char) : Bool :=
  isWord c || ";/?:@&=+$.!~*'()".toList.contains c || (wide && (c = ',' || c = '[' || c = ']'))

/-- The number of octets that follow the first octet of a character. -/
def octetsAfter? (octet : Nat) : Option Nat :=
  if octet < 0x80 then some 0
  else if octet < 0xC0 then none
  else if octet < 0xE0 then some 1
  else if octet < 0xF0 then some 2
  else if octet < 0xF8 then some 3
  else none

/-- Read the octets of a part of a tag, while the character at hand still owes `owed` octets. -/
def tagOctets? (wide : Bool) : Nat → List Char → Option (List Nat × List Char)
  | owed, '%' :: high :: low :: rest => do
      let h ← Text.digit? 16 high
      let l ← Text.digit? 16 low
      let octet := h * 16 + l
      let owed ← match owed with
        | 0 => octetsAfter? octet
        | owed + 1 => if octet / 64 = 2 then some owed else none
      let (octets, rest) ← tagOctets? wide owed rest
      pure (octet :: octets, rest)
  | 0, c :: rest =>
      if c = '%' then none
      else if isTagChar wide c then
        (tagOctets? wide 0 rest).map fun (octets, rest) => (Text.charOctets c ++ octets, rest)
      else some ([], c :: rest)
  | 0, [] => some ([], [])
  | _ + 1, _ => none

/-- The part of a tag at the start of a text, which may be empty, and the text after it. -/
def tagPart? (wide : Bool) (text : List Char) : Option (List Char × List Char) :=
  (tagOctets? wide 0 text).map fun (octets, rest) => (Text.decodeOctets octets, rest)

/-- What looks like the handle of a tag at the start of a text: a mark, word characters and perhaps
a second mark. -/
def tagHandle? : List Char → Option (List Char × List Char)
  | '!' :: rest =>
      let word := rest.takeWhile isWord
      match rest.drop word.length with
      | '!' :: rest => some ('!' :: word ++ ['!'], rest)
      | rest => some ('!' :: word, rest)
  | _ => none

/-- Whether a possible handle is one: two marks, perhaps with a word between them. -/
def isHandle (handle : List Char) : Bool :=
  2 ≤ handle.length && handle.getLast? = some '!'

/-- The handle and the suffix of the tag at the start of a text. -/
def tagParts? (text : List Char) : Option (List Char × List Char × List Char) :=
  match text with
  | '!' :: '<' :: rest => do
      let (suffix, rest) ← tagPart? true rest
      match suffix, rest with
      | _ :: _, '>' :: rest => pure ([], suffix, rest)
      | _, _ => none
  | _ => do
      let (handle, rest) ← tagHandle? text
      let (part, rest) ← tagPart? false rest
      if isHandle handle then
        if part.isEmpty then none else pure (handle, part, rest)
      else
        match handle.drop 1 ++ part with
        | [] => pure ([], ['!'], rest)
        | suffix => pure (['!'], suffix, rest)

/-- The tag at a place, which a gap has to follow, or inside brackets a comma. -/
def tagToken? (inFlow : Bool) (cursor : Cursor) : Option (Token × Cursor) := do
  let (handle, suffix, rest) ← tagParts? cursor.rest
  if atGap rest || (inFlow && rest.head? = some ',') then
    pure (.tag (String.ofList handle) (String.ofList suffix), cursor.upTo rest)
  else none

/-- A part of a version, written by at most nine digits. -/
def versionPart? (cursor : Cursor) : Option (Nat × Cursor) :=
  let (digits, next) := cursor.span Char.isDigit
  if digits.isEmpty || 9 < digits.length then none else some (Text.decimalValue digits, next)

/-- The version that a directive gives. -/
def versionToken? (cursor : Cursor) : Option (Token × Cursor) := do
  let (major, cursor) ← versionPart? (cursor.skipWhile isBlank)
  if cursor.rest.head? = some '.' then
    let (minor, cursor) ← versionPart? (cursor.skip 1)
    pure (.versionDirective major minor, cursor)
  else none

/-- The handle that a directive gives, and what it stands for. -/
def handleToken? (cursor : Cursor) : Option (Token × Cursor) := do
  let cursor := cursor.skipWhile isBlank
  let (handle, rest) ← tagHandle? cursor.rest
  let (gap, next) := (cursor.upTo rest).span isBlank
  let (expansion, rest) ← tagPart? true next.rest
  if (isHandle handle || handle = ['!']) && !gap.isEmpty && !expansion.isEmpty && atGap rest then
    pure (.tagDirective (String.ofList handle) (String.ofList expansion), next.upTo rest)
  else none

/-- The directive at a place, with the rest of its line. -/
def directive? (cursor : Cursor) : Option (Token × Cursor) := do
  let (name, cursor) := (cursor.skip 1).span isWord
  let (token, cursor) ←
    if !atGap cursor.rest then none
    else if String.ofList name = "YAML" then versionToken? cursor
    else if String.ofList name = "TAG" then handleToken? cursor
    else none
  let cursor ← cursor.finishLine?
  pure (token, cursor)

end SchemaGraph.Yaml
