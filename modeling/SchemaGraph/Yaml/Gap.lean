import SchemaGraph.Yaml.Cursor

/-!
# Gaps inside a scalar

The blanks and line breaks between two words of a plain or quoted scalar. A gap within one line
stands for itself. A gap with line breaks is folded: the first break becomes a space, unless more
follow, which then stand for themselves.
-/

namespace SchemaGraph.Yaml

/-- The white space between two words of a scalar. -/
structure Gap where
  /-- Whether a line break was passed. -/
  crossed : Bool
  /-- The blanks before the first line break, in reverse. -/
  blanks : List Char
  /-- The first line break, if it counts. -/
  first : Option Char
  /-- The line breaks after the first one, in reverse. -/
  more : List Char

namespace Gap

/-- No white space. -/
def empty : Gap := ⟨false, [], none, []⟩

/-- A line break that is escaped, so that it does not count. -/
def escaped : Gap := ⟨true, [], none, []⟩

/-- One more blank, which counts only before the first line break. -/
def addBlank (gap : Gap) (c : Char) : Gap :=
  if gap.crossed then gap else ⟨gap.crossed, c :: gap.blanks, gap.first, gap.more⟩

/-- One more line break. -/
def addBreak (gap : Gap) (c : Char) : Gap :=
  if gap.crossed then ⟨true, gap.blanks, gap.first, c :: gap.more⟩ else ⟨true, [], some c, []⟩

/-- The text that a gap stands for. -/
def text (gap : Gap) : List Char :=
  if !gap.crossed then gap.blanks.reverse
  else
    match gap.first with
    | some '\n' => if gap.more.isEmpty then [' '] else gap.more.reverse
    | some c => c :: gap.more.reverse
    | none => gap.more.reverse

/-- Read on in a gap. After a line break no tab may stand before the given column. -/
def read? (leastColumn : Nat) : List Char → Nat → Nat → Gap → Option (Gap × Cursor)
  | [], line, column, gap => some (gap, ⟨[], line, column⟩)
  | c :: rest, line, column, gap =>
      if isBlank c then
        if gap.crossed && column < leastColumn && c = '\t' then none
        else read? leastColumn rest line (column + 1) (gap.addBlank c)
      else if isBreak c then read? leastColumn rest (line + 1) 0 (gap.addBreak c)
      else some (gap, ⟨c :: rest, line, column⟩)

/-- The gap that begins with `gap` and goes on at a place, and the place after it. -/
def after? (gap : Gap) (leastColumn : Nat) (cursor : Cursor) : Option (Gap × Cursor) :=
  read? leastColumn cursor.rest cursor.line cursor.column gap

end Gap

end SchemaGraph.Yaml
