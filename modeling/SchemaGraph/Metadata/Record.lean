import SchemaGraph.Graph.Sealed
import SchemaGraph.Operation.Basic
import SchemaGraph.Typing.TypeRef

/-!
# Records for code generation

The records that describe a model or an operation to a code generator: names, identifiers that are
distinct within their record, types, and what has to be imported.
-/

namespace SchemaGraph

/-- A literal of an enum. -/
structure EnumRecord where
  identifier : String
  literalText : String
  isString : Bool
  deriving DecidableEq, Repr

/-- A property of a model. -/
structure PropertyRecord where
  name : String
  identifier : String
  type : TypeRef
  required : Bool
  nullable : Bool
  description : Option String
  imports : List ImportHint
  deriving DecidableEq, Repr

/-- A named schema. -/
structure ModelRecord where
  schemaName : String
  className : String
  fileName : String
  docs : Docs
  /-- The literals, when the schema is an enum. -/
  literals : Option (List EnumRecord)
  /-- The alternatives and the tag, when the schema is a sum type. -/
  sumType : Option SumType
  /-- The class of the sum type that the schema is an alternative of. -/
  parentClass : Option String
  properties : List PropertyRecord
  /-- The type that the schema stands for, when it is neither enum, object nor composition. -/
  valueType : Option TypeRef
  imports : List ImportHint
  deriving DecidableEq, Repr

/-- A parameter of an operation, or a field of a body, which has no location. -/
structure FieldRecord where
  name : String
  identifier : String
  location : Option Location
  type : TypeRef
  required : Bool
  nullable : Bool
  description : Option String
  imports : List ImportHint
  deriving DecidableEq, Repr

/-- The request body of an operation. The fields are those of a form or multipart body. -/
structure BodyRecord where
  contentType : String
  format : BodyFormat
  type : TypeRef
  required : Bool
  description : Option String
  fields : List FieldRecord
  deriving DecidableEq, Repr

/-- One HTTP method on one path. -/
structure OperationRecord where
  operationId : String
  method : String
  path : String
  parameters : List FieldRecord
  body : Option BodyRecord
  imports : List ImportHint
  deriving DecidableEq, Repr

end SchemaGraph
