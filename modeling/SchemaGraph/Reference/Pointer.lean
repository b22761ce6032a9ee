import SchemaGraph.Text.Octets

/-!
# Pointers to definitions

A reference ends in a pointer such as `#/components/schemas/Pet`. `Reference.schemaName?` takes the
name from its last segment, and `Reference.componentName?` from a pointer into one section of the
components. Segments are decoded: `~1` stands for a slash, `~0` for a tilde, and percent escapes for
octets.
-/

namespace SchemaGraph.Reference

/-- Replace each pair of adjacent characters, from left to right. -/
def replacePair (first second result : Char) : List Char → List Char
  | a :: b :: rest =>
      if a = first ∧ b = second then result :: replacePair first second result rest
      else a :: replacePair first second result (b :: rest)
  | text => text

/-- The name that a pointer segment writes. -/
def decodeSegment (segment : List Char) : List Char :=
  Text.percentDecode (replacePair '~' '0' '~' (replacePair '~' '1' '/' segment))

/-- A name, unless it is empty. -/
def nonEmpty? (name : List Char) : Option String :=
  if name.isEmpty then none else some (String.ofList name)

/-- The part of a reference that names a schema: what follows the last slash, or the whole text
without leading number signs when there is no slash. -/
def lastSegment (reference : List Char) : List Char :=
  if reference.contains '/' then (reference.reverse.takeWhile (· ≠ '/')).reverse
  else reference.dropWhile (· = '#')

/-- The name of the schema that a reference names. -/
def schemaName? (reference : String) : Option String :=
  nonEmpty? (decodeSegment (lastSegment reference.toList))

/-- The segments of a local pointer. -/
def segments? (reference : List Char) : Option (List (List Char)) :=
  match reference with
  | '#' :: rest => some ((rest.dropWhile (· = '/')).splitOnP (· = '/'))
  | _ => none

/-- The name in a pointer into a section of the components. -/
def componentName? (reference area : String) : Option String :=
  match segments? reference.toList with
  | some [root, inner, name] =>
      if root = "components".toList ∧ inner = area.toList then nonEmpty? (decodeSegment name)
      else none
  | _ => none

end SchemaGraph.Reference
