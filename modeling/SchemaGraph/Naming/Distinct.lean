import SchemaGraph.Keyed

/-!
# Distinct names

`Naming.distinct` makes the names of one collection pairwise distinct. A name that is still free is
kept; a name that is taken gets the next number, counting from two for each name, that makes it
free.
-/

namespace SchemaGraph.Naming

/-- A name followed by a number. -/
def numbered (base : String) (number : Nat) : String :=
  base ++ toString number

/-- The least number above `count` that makes a name free. Among the next `taken.length + 1`
numbers one does, since they give as many different names. -/
def freeNumber (taken : List String) (base : String) (count : Nat) : Nat :=
  ((List.range (taken.length + 1)).find? fun offset =>
    numbered base (count + 1 + offset) ∉ taken).elim 0 (count + 1 + ·)

/-- Make names distinct from one another and from the names already taken. `counts` holds the last
number tried for each name. -/
def distinctFrom : List String → Keyed Nat → List String → List String
  | _, _, [] => []
  | taken, counts, base :: rest =>
      if base ∈ taken then
        let number := freeNumber taken base ((Keyed.get? counts base).getD 1)
        let name := numbered base number
        name :: distinctFrom (name :: taken) (Keyed.put counts base number) rest
      else base :: distinctFrom (base :: taken) counts rest

/-- The names of one collection made pairwise distinct. -/
def distinct (names : List String) : List String :=
  distinctFrom [] [] names

end SchemaGraph.Naming
