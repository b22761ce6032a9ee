import SchemaGraph.Text.Case

/-!
# Reserved words

The words that generated code cannot use as identifiers: the built-in keywords, and those that a
configuration adds to them.
-/

namespace SchemaGraph

/-- A set of words that are not available as identifiers. -/
structure ReservedWords where
  words : List String
  deriving DecidableEq, Repr

namespace ReservedWords

/-- The keywords that are always reserved. -/
def builtin : ReservedWords where
  words :=
    ["abstract", "as", "assert", "async", "await", "break", "case", "catch", "class", "const",
     "continue", "covariant", "default", "deferred", "do", "dynamic", "else", "enum", "export",
     "extends", "extension", "external", "factory", "false", "final", "finally", "for",
     "Function", "get", "hide", "if", "implements", "import", "in", "interface", "is", "late",
     "library", "mixin", "new", "null", "on", "operator", "part", "required", "rethrow",
     "return", "set", "show", "static", "super", "switch", "sync", "this", "throw", "true", "try",
     "typedef", "var", "void", "while", "with", "yield"]

/-- Reserve more words. -/
def extend (reserved : ReservedWords) (more : List String) : ReservedWords :=
  ⟨reserved.words ++ more⟩

/-- Whether a word is reserved as it is written. -/
def contains (reserved : ReservedWords) (word : String) : Bool :=
  reserved.words.contains word

/-- Whether a word differs from a reserved one at most in letter case. -/
def containsIgnoringCase (reserved : ReservedWords) (word : String) : Bool :=
  let lowered := Text.lower word.toList
  reserved.words.any fun known => Text.lower known.toList = lowered

end ReservedWords

end SchemaGraph
