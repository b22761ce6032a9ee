import SchemaGraph.Naming.Identifier
import SchemaGraph.Typing.TypeRef

/-!
# From schemas to types

`TypeMapper.typeOf` gives the type of a schema. Bytes are a file attachment in a field of a
multipart body and a buffer everywhere else, so the mapping takes the payload it works for as an
argument. List items and aliases belong to the same field, the values of a map do not.
-/

namespace SchemaGraph

/-- The payload that a type is used in. -/
inductive Payload where
  /-- Anything but a field of a multipart body. -/
  | plain
  /-- A field of a multipart body. -/
  | multipart
  deriving DecidableEq, Repr

/-- What types depend on besides the schema: the named schemas and the names of their classes. -/
structure TypeMapper where
  table : Table
  namer : Namer

namespace TypeMapper

/-- The class generated for a named schema. -/
def modelType (mapper : TypeMapper) (schemaName : String) : TypeRef :=
  .model schemaName (mapper.namer.className schemaName) (mapper.namer.fileName schemaName)

/-- The type of a scalar. -/
def scalarType (payload : Payload) (leaf : Scalar) : TypeRef :=
  if leaf.isBinary then
    match payload with
    | .multipart => .fileAttachment
    | .plain => .byteBuffer
  else .scalar leaf.kind leaf.format

/-- The type of a resolved entry. A scalar without literals is used in place, every other
definition through its class. -/
def resolvedType (mapper : TypeMapper) (payload : Payload) (resolved : Resolved) : TypeRef :=
  match resolved.schema with
  | .unknown => .unknown
  | .any => .any
  | .scalar leaf =>
      if leaf.isEnum then mapper.modelType resolved.name else scalarType payload leaf
  | _ => mapper.modelType resolved.name

/-- The type of the schema that a reference names. -/
def referenceType (mapper : TypeMapper) (payload : Payload) (subject : Option String)
    (reference : String) : Reported TypeRef := do
  let resolved ← mapper.table.resolve subject reference
  pure (mapper.resolvedType payload resolved)

mutual

/-- The type of a schema in place. An `allOf` with a single member has the type of that member. -/
def schemaType (mapper : TypeMapper) (payload : Payload) (subject : Option String) :
    Schema → Reported TypeRef
  | .scalar leaf => pure (scalarType payload leaf)
  | .array items => do
      let item ← mapper.typeOf payload subject items
      pure (.list item)
  | .map values => do
      let value ← mapper.typeOf .plain subject values
      pure (.map value)
  | .alias reference => mapper.referenceType payload subject reference
  | .composition ⟨.allOf, [member], _, _⟩ => mapper.typeOf payload subject member
  | .composition _ => pure .any
  | .object _ => pure .any
  | .any => pure .any
  | .unknown => pure .unknown

/-- The type of the schema at the place where it is used. -/
def typeOf (mapper : TypeMapper) (payload : Payload) (subject : Option String) :
    Use Schema → Reported TypeRef
  | .named reference => mapper.referenceType payload subject reference
  | .inline schema => mapper.schemaType payload subject schema

end

end TypeMapper

end SchemaGraph
