import SchemaGraph.Yaml.Gap

/-!
# Plain scalars

A plain scalar is a run of words with gaps between them. It ends at a colon before a gap, at a
comment, at a document marker, at a line that is not indented enough, and inside brackets at a
bracket, a brace or a comma.
-/

namespace SchemaGraph.Yaml

/-- The characters that end a plain scalar inside brackets. -/
def isFlowMark (c : Char) : Bool :=
  c = ',' || c = '[' || c = ']' || c = '\x7b' || c = '\x7d'

/-- Whether a colon before the given text is refused inside brackets. -/
def isStrayColon (rest : List Char) : Bool :=
  match rest with
  | next :: _ => next = '?' || isFlowMark next
  | [] => false

/-- Whether a plain scalar ends before a character that the given text follows. -/
def endsPlain (inFlow : Bool) (c : Char) (rest : List Char) : Bool :=
  (c = ':' && atGap rest) || (inFlow && isFlowMark c)

/-- The word at the start of a text. -/
def plainWord? (inFlow : Bool) : List Char → Option (List Char)
  | [] => some []
  | c :: rest =>
      if isBlank c || isBreak c then some []
      else if inFlow && c = ':' && isStrayColon rest then none
      else if endsPlain inFlow c rest then some []
      else (plainWord? inFlow rest).map (c :: ·)

/-- A plain scalar, whether a line break was passed after it, and the place reached. -/
structure PlainScalar where
  text : String
  crossed : Bool
  cursor : Cursor

/-- Read on in a plain scalar after a gap, given the characters before the gap in reverse. -/
def plainRest? (inFlow : Bool) (leastColumn : Nat) :
    Nat → List Char → Gap → Cursor → Option PlainScalar
  | 0, _, _, _ => none
  | fuel + 1, acc, gap, cursor =>
      let finish (gap : Gap) (acc : List Char) (cursor : Cursor) : PlainScalar :=
        ⟨String.ofList acc.reverse, gap.crossed, cursor⟩
      if cursor.atDocumentMarker || cursor.rest.head? = some '#' then
        some (finish gap acc cursor)
      else do
        let word ← plainWord? inFlow cursor.rest
        if word.isEmpty then pure (finish gap acc cursor)
        else
          let acc := word.reverse ++ gap.text.reverse ++ acc
          let cursor := cursor.skip word.length
          match cursor.rest with
          | [] => pure (finish .empty acc cursor)
          | c :: _ =>
              if isBlank c || isBreak c then do
                let (gap, next) ← Gap.empty.after? leastColumn cursor
                if !inFlow && next.column < leastColumn then pure (finish gap acc next)
                else plainRest? inFlow leastColumn fuel acc gap next
              else pure (finish .empty acc cursor)

/-- The plain scalar at a place. Outside brackets its further lines start at `leastColumn` or
later. -/
def plainScalar? (inFlow : Bool) (leastColumn : Nat) (cursor : Cursor) : Option PlainScalar :=
  plainRest? inFlow leastColumn (cursor.rest.length + 1) [] .empty cursor

end SchemaGraph.Yaml
