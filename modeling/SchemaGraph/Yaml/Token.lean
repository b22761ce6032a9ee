/-!
# YAML tokens

The tokens of a YAML text. Besides its marks they say where block collections begin and end, which
the text shows by indentation only, and which tokens open the key of a mapping.
-/

namespace SchemaGraph.Yaml

/-- How a scalar is written. Only a plain one can be anything but a text by itself. -/
inductive ScalarStyle where
  | plain
  | quoted
  | literal
  | folded
  deriving DecidableEq, Repr

/-- A token of a YAML text. -/
inductive Token where
  | versionDirective (major minor : Nat)
  | tagDirective (handle expansion : String)
  | documentStart
  | documentEnd
  | blockSequenceStart
  | blockMappingStart
  | blockEnd
  | blockEntry
  | flowSequenceStart
  | flowSequenceEnd
  | flowMappingStart
  | flowMappingEnd
  | flowEntry
  | key
  | value
  | alias (name : String)
  | anchor (name : String)
  /-- A tag. The handle is empty for a verbatim tag and for the tag that is a single mark. -/
  | tag (handle suffix : String)
  | scalar (text : String) (style : ScalarStyle)
  deriving DecidableEq, Repr

end SchemaGraph.Yaml
