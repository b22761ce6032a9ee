import SchemaGraph.Yaml.Cursor

/-!
# Block scalars

A block scalar is a header and the indented lines after it. A literal one keeps its line breaks, a
folded one joins lines by spaces unless one of them starts with a blank. The header may give the
indentation and say what becomes of the line breaks at the end.
-/

namespace SchemaGraph.Yaml

/-- What becomes of the line breaks at the end of a block scalar. -/
inductive Chomping where
  /-- None is kept. -/
  | strip
  /-- The first is kept. -/
  | clip
  /-- All are kept. -/
  | keep
  deriving DecidableEq, Repr

/-- The header of a block scalar. -/
structure BlockHeader where
  chomping : Chomping
  /-- The indentation beyond that of the surrounding block, unless the text decides it. -/
  increment : Option Nat

/-- The chomping indicator at the start of a text. -/
def readChomping (text : List Char) : Option Chomping × List Char :=
  match text with
  | '+' :: rest => (some .keep, rest)
  | '-' :: rest => (some .strip, rest)
  | _ => (none, text)

/-- The indentation indicator at the start of a text, which may not be zero. -/
def readIncrement? (text : List Char) : Option (Option Nat × List Char) :=
  match text with
  | c :: rest =>
      if c = '0' then none
      else if c.isDigit then some (some (c.toNat - '0'.toNat), rest)
      else some (none, text)
  | [] => some (none, text)

/-- The indicators of a header, in either order, and the number of characters that write them. -/
def readHeader? (text : List Char) : Option (BlockHeader × Nat) := do
  let (before, afterFirst) := readChomping text
  let (increment, afterSecond) ← readIncrement? afterFirst
  let (chomping, rest) :=
    if before.isSome || increment.isNone then (before, afterSecond) else readChomping afterSecond
  pure (⟨chomping.getD .clip, increment⟩, text.length - rest.length)

/-- The line breaks before a line of a block scalar, in reverse, the widest indentation passed, and
the place reached. -/
structure BlockGap where
  breaks : List Char
  widest : Nat
  cursor : Cursor

/-- Pass over indentation and empty lines. Without an indentation all spaces count. A tab may not
stand in the indentation. -/
def blockGap? (indentation : Option Nat) :
    List Char → Nat → Nat → Nat → List Char → Option BlockGap
  | [], line, column, widest, breaks => some ⟨breaks, max widest column, ⟨[], line, column⟩⟩
  | c :: rest, line, column, widest, breaks =>
      let inIndentation := indentation.all fun limit => column < limit
      if c = ' ' && inIndentation then
        blockGap? indentation rest line (column + 1) widest breaks
      else if c = '\t' && inIndentation then none
      else if isBreak c then
        blockGap? indentation rest (line + 1) 0 (max widest column) (c :: breaks)
      else some ⟨breaks, max widest column, ⟨c :: rest, line, column⟩⟩

/-- `blockGap?` at a place. -/
def Cursor.blockGap? (cursor : Cursor) (indentation : Option Nat) : Option BlockGap :=
  Yaml.blockGap? indentation cursor.rest cursor.line cursor.column 0 []

/-- The lines of a block scalar that are read, in reverse: the text up to the last line, the break
after it and the breaks of the empty lines that follow. -/
structure BlockText where
  text : List Char
  lastBreak : List Char
  emptyLines : List Char

/-- Join the next line to the text. A folded scalar joins lines by a space when neither starts with
a blank. -/
def BlockText.joined (literal blankBefore blankAfter : Bool) (read : BlockText) : List Char :=
  if !literal && read.lastBreak = ['\n'] && !blankBefore && !blankAfter then
    read.emptyLines ++ (if read.emptyLines.isEmpty then [' '] else []) ++ read.text
  else read.emptyLines ++ read.lastBreak ++ read.text

/-- Read the lines of a block scalar. -/
def blockLines? (literal : Bool) (indentation : Nat) :
    Nat → Bool → BlockText → Cursor → Option (BlockText × Cursor)
  | 0, _, _, _ => none
  | fuel + 1, blankBefore, read, cursor =>
      match cursor.rest with
      | [] => some (read, cursor)
      | c :: _ =>
          if cursor.column = indentation then do
            let text := read.joined literal blankBefore (isBlank c)
            let (line, cursor) := cursor.span fun c => !isBreak c
            let text := line.reverse ++ text
            match cursor.rest with
            | [] => pure (⟨text, [], []⟩, cursor)
            | lineBreak :: _ => do
                let gap ← cursor.nextLine.blockGap? (some indentation)
                blockLines? literal indentation fuel (isBlank c)
                  ⟨text, [lineBreak], gap.breaks⟩ gap.cursor
          else some (read, cursor)

/-- The text that is left after chomping. -/
def BlockText.chomped (read : BlockText) : Chomping → List Char
  | .strip => read.text
  | .clip => read.lastBreak ++ read.text
  | .keep => read.emptyLines ++ read.lastBreak ++ read.text

/-- The block scalar at a place, and the place after it. `leastIndentation` is one more than the
column of the surrounding block, or zero outside every block. -/
def blockScalar? (literal : Bool) (leastIndentation : Nat) (cursor : Cursor) :
    Option (String × Cursor) := do
  let cursor := cursor.skip 1
  let (header, width) ← readHeader? cursor.rest
  let cursor ← (cursor.skip width).finishLine?
  let given := header.increment.map fun increment => (leastIndentation - 1) + increment
  let gap ← cursor.blockGap? given
  let indentation := given.getD (max gap.widest (max leastIndentation 1))
  let (read, cursor) ← blockLines? literal indentation (gap.cursor.rest.length + 1) false
    ⟨[], [], gap.breaks⟩ gap.cursor
  pure (String.ofList (read.chomped header.chomping).reverse, cursor)

end SchemaGraph.Yaml
