import SchemaGraph.Yaml.BlockScalar
import SchemaGraph.Yaml.PlainScalar
import SchemaGraph.Yaml.Properties
import SchemaGraph.Yaml.QuotedScalar

/-!
# From text to YAML tokens

A key of a mapping is known to be one only when the colon after it is met. Until then its place
among the tokens is remembered as a `KeyPlace`, one for the surrounding block and one for each open
bracket, and the tokens that open the key are inserted there afterwards. Such a key lies on one line
and has at most 1024 characters. The columns of the open block collections are kept on a stack.
-/

namespace SchemaGraph.Yaml

/-- Where a key may begin. -/
structure KeyPlace where
  /-- Whether nothing but a key can stand there. -/
  required : Bool
  /-- The number of tokens before it. -/
  tokensBefore : Nat
  line : Nat
  column : Nat

/-- The greatest length of a key before its colon. -/
def longestKey : Nat := 1024

/-- Whether a key that begins at a place can still end at the cursor. -/
def KeyPlace.reaches (place : KeyPlace) (cursor : Cursor) : Bool :=
  place.line = cursor.line && cursor.column ≤ place.column + longestKey

/-- The state between two tokens. -/
structure Lexer where
  cursor : Cursor
  /-- The tokens read, in reverse. -/
  tokens : List Token
  count : Nat
  /-- Where the key at hand may begin. -/
  keyPlace : Option KeyPlace
  /-- The same for each bracket that is open, seen from outside it. -/
  outerPlaces : List (Option KeyPlace)
  /-- The columns of the open block collections, the innermost first. -/
  columns : List Nat
  /-- Whether a key may begin at the cursor. -/
  keyAllowed : Bool

namespace Lexer

/-- The state at the start of a text. -/
def start (cursor : Cursor) : Lexer :=
  ⟨cursor, [], 0, none, [], [], true⟩

/-- Whether a bracket is open. -/
def inFlow (lexer : Lexer) : Bool :=
  !lexer.outerPlaces.isEmpty

/-- The least column of what lies inside the innermost open block collection. -/
def leastColumn (lexer : Lexer) : Nat :=
  match lexer.columns with
  | [] => 0
  | column :: _ => column + 1

/-- Add a token. -/
def emit (lexer : Lexer) (token : Token) : Lexer :=
  { lexer with tokens := token :: lexer.tokens, count := lexer.count + 1 }

/-- Insert a token after the first `place` tokens. -/
def insertAt (lexer : Lexer) (place : Nat) (token : Token) : Lexer :=
  let later := lexer.count - place
  { lexer with
    tokens := lexer.tokens.take later ++ token :: lexer.tokens.drop later
    count := lexer.count + 1 }

/-- Move the cursor. -/
def moveTo (lexer : Lexer) (cursor : Cursor) : Lexer :=
  { lexer with cursor := cursor }

/-- Say whether a key may begin next. -/
def allowKey (lexer : Lexer) (allowed : Bool) : Lexer :=
  { lexer with keyAllowed := allowed }

/-- Pass over characters and add the token that they write. -/
def take (lexer : Lexer) (width : Nat) (token : Token) : Lexer :=
  (lexer.moveTo (lexer.cursor.skip width)).emit token

/-- Pass over blanks, comments and line breaks. Outside brackets a key may begin on a new line, and
where one may begin a tab is not passed over. A line may begin with a byte order mark. -/
def skipGap : Nat → Lexer → Lexer
  | 0, lexer => lexer
  | fuel + 1, lexer =>
      let tabs := lexer.inFlow || !lexer.keyAllowed
      let isSkipped (c : Char) : Bool := c = ' ' || (tabs && c = '\t')
      let cursor := (lexer.cursor.skipByteOrderMark.skipWhile isSkipped).skipComment
      let lexer := lexer.moveTo cursor
      match cursor.rest with
      | c :: _ =>
          if isBreak c then
            let allowed := lexer.keyAllowed || !lexer.inFlow
            skipGap fuel ((lexer.moveTo cursor.nextLine).allowKey allowed)
          else lexer
      | [] => lexer

/-- A place that a key can still be reached from, or none. Losing a required key is a fault. -/
def refresh? (cursor : Cursor) : Option KeyPlace → Option (Option KeyPlace)
  | some place =>
      if place.reaches cursor then some (some place)
      else if place.required then none
      else some none
  | none => some none

/-- Forget the places from which no key can be reached any more. -/
def forgetStale? (lexer : Lexer) : Option Lexer := do
  let keyPlace ← refresh? lexer.cursor lexer.keyPlace
  let outerPlaces ← lexer.outerPlaces.mapM (refresh? lexer.cursor)
  pure { lexer with keyPlace := keyPlace, outerPlaces := outerPlaces }

/-- Forget the place of the key at hand. -/
def dropKey? (lexer : Lexer) : Option Lexer :=
  match lexer.keyPlace with
  | some place => if place.required then none else some { lexer with keyPlace := none }
  | none => some lexer

/-- Remember the cursor as the place of a key, if a key may begin there. -/
def saveKey? (lexer : Lexer) : Option Lexer :=
  if lexer.keyAllowed then do
    let lexer ← lexer.dropKey?
    let required := !lexer.inFlow && lexer.columns.head? = some lexer.cursor.column
    pure { lexer with
      keyPlace := some ⟨required, lexer.count, lexer.cursor.line, lexer.cursor.column⟩ }
  else some lexer

/-- The state after the block collections that begin right of a column are closed. -/
def closeBlocks (column : Option Nat) : List Nat → Lexer → Lexer
  | [], lexer => { lexer with columns := [] }
  | top :: below, lexer =>
      if column.all (· < top) then closeBlocks column below (lexer.emit .blockEnd)
      else { lexer with columns := top :: below }

/-- Close the block collections that begin right of a column, or all of them. Inside brackets
indentation does not count. -/
def unindent (lexer : Lexer) (column : Option Nat) : Lexer :=
  if lexer.inFlow then lexer else closeBlocks column lexer.columns lexer

/-- Open a block collection at a column, if that lies right of the innermost one. The token that
opens it is inserted after the first `place` tokens. -/
def indent (lexer : Lexer) (column place : Nat) (token : Token) : Lexer :=
  if lexer.inFlow || column < lexer.leastColumn then lexer
  else { lexer.insertAt place token with columns := column :: lexer.columns }

/-- Open a block collection at the cursor, where outside brackets a key has to be allowed. -/
def indentHere? (lexer : Lexer) (token : Token) : Option Lexer :=
  if lexer.inFlow then some lexer
  else if lexer.keyAllowed then some (lexer.indent lexer.cursor.column lexer.count token)
  else none

/-- Read the end of the text. -/
def finish? (lexer : Lexer) : Option Lexer := do
  let lexer ← (lexer.unindent none).dropKey?
  pure (lexer.allowKey false)

/-- Read a token at which all block collections end. -/
def breakOff? (lexer : Lexer) (token : Token) (next : Cursor) : Option Lexer := do
  let lexer ← (lexer.unindent none).dropKey?
  pure (((lexer.allowKey false).moveTo next).emit token)

/-- Read an opening bracket. -/
def openFlow? (lexer : Lexer) (token : Token) : Option Lexer := do
  let lexer ← lexer.saveKey?
  let inner := { lexer with
    outerPlaces := lexer.keyPlace :: lexer.outerPlaces, keyPlace := none, keyAllowed := true }
  pure (inner.take 1 token)

/-- Read a closing bracket. -/
def closeFlow? (lexer : Lexer) (token : Token) : Option Lexer := do
  let lexer ← lexer.dropKey?
  let outer := match lexer.outerPlaces with
    | place :: places => { lexer with outerPlaces := places, keyPlace := place }
    | [] => lexer
  pure ((outer.allowKey false).take 1 token)

/-- Read a comma between brackets. -/
def nextItem? (lexer : Lexer) : Option Lexer := do
  let lexer ← lexer.dropKey?
  pure ((lexer.allowKey true).take 1 .flowEntry)

/-- Read the dash of a sequence. -/
def dash? (lexer : Lexer) : Option Lexer := do
  let lexer ← lexer.indentHere? .blockSequenceStart
  let lexer ← lexer.dropKey?
  pure ((lexer.allowKey true).take 1 .blockEntry)

/-- Read the mark of a key that is no simple one. -/
def explicitKey? (lexer : Lexer) : Option Lexer := do
  let lexer ← lexer.indentHere? .blockMappingStart
  let lexer ← lexer.dropKey?
  pure ((lexer.allowKey !lexer.inFlow).take 1 .key)

/-- Read the colon before a value. If a key may have begun before it, one has. -/
def colon? (lexer : Lexer) : Option Lexer :=
  match lexer.keyPlace with
  | some place =>
      let opened := (lexer.insertAt place.tokensBefore .key).indent place.column
        place.tokensBefore .blockMappingStart
      some (({ opened with keyPlace := none }.allowKey false).take 1 .value)
  | none => do
      let lexer ← lexer.indentHere? .blockMappingStart
      pure ((lexer.allowKey !lexer.inFlow).take 1 .value)

/-- Read a token that may begin a key. -/
def content? (lexer : Lexer) (read : Cursor → Option (Token × Cursor)) : Option Lexer := do
  let lexer ← lexer.saveKey?
  let (token, next) ← read lexer.cursor
  pure (((lexer.allowKey false).moveTo next).emit token)

/-- Read a quoted scalar. -/
def quoted? (lexer : Lexer) (double : Bool) : Option Lexer :=
  lexer.content? fun cursor =>
    (quotedScalar? double cursor).map fun (text, next) => (.scalar text .quoted, next)

/-- Read a block scalar. -/
def block? (lexer : Lexer) (literal : Bool) : Option Lexer := do
  let lexer ← lexer.dropKey?
  let (text, next) ← blockScalar? literal lexer.leastColumn lexer.cursor
  pure (((lexer.allowKey true).moveTo next).emit
    (.scalar text (if literal then .literal else .folded)))

/-- Read a plain scalar. After one that a line break follows, a key may begin. -/
def plain? (lexer : Lexer) : Option Lexer := do
  let lexer ← lexer.saveKey?
  let found ← plainScalar? lexer.inFlow lexer.leastColumn lexer.cursor
  pure (((lexer.allowKey found.crossed).moveTo found.cursor).emit (.scalar found.text .plain))

/-- The characters that cannot begin a plain scalar. -/
def isIndicator (c : Char) : Bool :=
  "-?:,[]\x7b\x7d#&*!|>'\"%@".toList.contains c || c.toNat = 0x60

/-- Whether a plain scalar begins with a character that the given text follows. -/
def beginsPlain (lexer : Lexer) (c : Char) (rest : List Char) : Bool :=
  !(isBlank c || isBreak c || isIndicator c)
    || (c = '-' && !(rest.head?.any isBlank))
    || (!lexer.inFlow && (c = '?' || c = ':') && !atGap rest)

/-- Read the token that begins with a character. -/
def token? (lexer : Lexer) (c : Char) (rest : List Char) : Option Lexer :=
  let inFlow := lexer.inFlow
  let cursor := lexer.cursor
  if cursor.column = 0 && c = '%' then do
    let (token, next) ← directive? cursor
    lexer.breakOff? token next
  else if cursor.atMarker '-' then lexer.breakOff? .documentStart (cursor.skip 3)
  else if cursor.atMarker '.' then lexer.breakOff? .documentEnd (cursor.skip 3)
  else if c = '[' then lexer.openFlow? .flowSequenceStart
  else if c = '\x7b' then lexer.openFlow? .flowMappingStart
  else if c = ']' then lexer.closeFlow? .flowSequenceEnd
  else if c = '\x7d' then lexer.closeFlow? .flowMappingEnd
  else if c = ',' then lexer.nextItem?
  else if c = '-' && atGap rest then lexer.dash?
  else if c = '?' && (inFlow || atGap rest) then lexer.explicitKey?
  else if c = ':' && (inFlow || atGap rest) then lexer.colon?
  else if c = '*' then
    lexer.content? fun cursor =>
      (anchorName? cursor).map fun (name, next) => (.alias name, next)
  else if c = '&' then
    lexer.content? fun cursor =>
      (anchorName? cursor).map fun (name, next) => (.anchor name, next)
  else if c = '!' then lexer.content? (tagToken? inFlow)
  else if c = '|' && !inFlow then lexer.block? true
  else if c = '>' && !inFlow then lexer.block? false
  else if c = '\'' then lexer.quoted? false
  else if c = '"' then lexer.quoted? true
  else if lexer.beginsPlain c rest then lexer.plain?
  else none

/-- Read the tokens up to the end of the text. -/
def run : Nat → Lexer → Option (List Token)
  | 0, _ => none
  | fuel + 1, lexer => do
      let lexer := skipGap (lexer.cursor.rest.length + 1) lexer
      let lexer ← lexer.forgetStale?
      let lexer := lexer.unindent (some lexer.cursor.column)
      match lexer.cursor.rest with
      | [] =>
          let lexer ← lexer.finish?
          pure lexer.tokens.reverse
      | c :: rest =>
          let lexer ← lexer.token? c rest
          run fuel lexer

end Lexer

/-- The tokens of a text. -/
def tokens? (text : String) : Option (List Token) := do
  let cursor ← Cursor.start? text
  Lexer.run (cursor.rest.length + 1) (.start cursor)

end SchemaGraph.Yaml
