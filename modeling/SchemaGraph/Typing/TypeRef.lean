import SchemaGraph.Graph.Resolution

/-!
# Types of generated code

A `TypeRef` is the type that generated code uses for a schema, in no particular language, and an
`ImportHint` is something that a generated file has to import for it.
-/

namespace SchemaGraph

/-- The type that generated code uses for a schema. -/
inductive TypeRef where
  | scalar (kind : ScalarKind) (format : Option String)
  /-- The class generated for a named schema. -/
  | model (schemaName className fileName : String)
  | list (item : TypeRef)
  /-- Values of one type under arbitrary names. -/
  | map (value : TypeRef)
  /-- Bytes that are uploaded as a file of a multipart body. -/
  | fileAttachment
  /-- Bytes in memory. -/
  | byteBuffer
  /-- Any value. -/
  | any
  /-- The type of a reference that cannot be resolved. -/
  | unknown
  deriving DecidableEq, Repr

/-- Something that a generated file imports. -/
inductive ImportHint where
  | model (className fileName : String)
  | fileAttachment
  | byteBuffer
  deriving DecidableEq, Repr

namespace ImportHint

/-- Append a hint that is not yet in a list. -/
def add (hints : List ImportHint) (hint : ImportHint) : List ImportHint :=
  if hint ∈ hints then hints else hints ++ [hint]

/-- Append the hints of a list that are not yet in another. -/
def merge (hints more : List ImportHint) : List ImportHint :=
  more.foldl add hints

/-- Whether a hint is for the class of the given name. -/
def isClass (className : String) : ImportHint → Bool
  | .model name _ => name = className
  | _ => false

end ImportHint

namespace TypeRef

/-- The scalar type without a format. -/
def bare (kind : ScalarKind) : TypeRef := .scalar kind none

/-- The text that shows a type. -/
def text : TypeRef → String
  | .scalar kind (some format) => kind.label ++ "(" ++ format ++ ")"
  | .scalar kind none => kind.label
  | .model _ className _ => className
  | .list item => "list<" ++ item.text ++ ">"
  | .map value => "map<" ++ value.text ++ ">"
  | .fileAttachment => "file"
  | .byteBuffer => "bytes"
  | .any => "any"
  | .unknown => Resolved.unknownName

/-- The imports that a type needs. -/
def imports : TypeRef → List ImportHint
  | .model _ className fileName => [.model className fileName]
  | .fileAttachment => [.fileAttachment]
  | .byteBuffer => [.byteBuffer]
  | .list item => item.imports
  | .map value => value.imports
  | .scalar _ _ | .any | .unknown => []

end TypeRef

end SchemaGraph
