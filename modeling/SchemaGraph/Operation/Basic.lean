import SchemaGraph.Schema.Basic
import SchemaGraph.Text.Case

/-!
# Operations

An `Operation` is one HTTP method on one path: its parameters, and the request body in the media
type that was selected for it.
-/

namespace SchemaGraph

/-- Where a parameter is carried. -/
inductive Location where
  | path
  | query
  | header
  | cookie
  deriving DecidableEq, Repr

namespace Location

/-- The word for a location. -/
def label : Location → String
  | .path => "path"
  | .query => "query"
  | .header => "header"
  | .cookie => "cookie"

/-- The location that a word names. -/
def parse? (word : String) : Option Location :=
  [Location.path, .query, .header, .cookie].find? fun location => location.label = word

end Location

/-- The encoding of a request body. -/
inductive BodyFormat where
  | json
  | form
  | multipart
  | other
  deriving DecidableEq, Repr

namespace BodyFormat

/-- The word for a format. -/
def label : BodyFormat → String
  | .json => "json"
  | .form => "form"
  | .multipart => "multipart"
  | .other => "other"

/-- The place of a format in the order of preference. -/
def rank : BodyFormat → Nat
  | .json => 0
  | .form => 1
  | .multipart => 2
  | .other => 3

/-- A media type without its parameters. -/
def essence (mediaType : String) : List Char :=
  Text.trim (mediaType.toList.takeWhile (· ≠ ';'))

/-- The format of a media type. -/
def ofMediaType (mediaType : String) : BodyFormat :=
  let media := Text.lowerAscii (essence mediaType)
  if media = "application/json".toList ∨ "+json".toList.isSuffixOf media then .json
  else if media = "application/x-www-form-urlencoded".toList then .form
  else if "multipart/".toList.isPrefixOf media then .multipart
  else .other

end BodyFormat

/-- A parameter of an operation. -/
structure Parameter where
  name : String
  location : Location
  required : Bool
  description : Option String
  schema : SchemaUse
  nullable : Bool

/-- The request body of an operation in its selected media type. -/
structure RequestBody where
  contentType : String
  schema : SchemaUse
  required : Bool
  description : Option String

/-- The encoding of a body. -/
def RequestBody.format (body : RequestBody) : BodyFormat :=
  .ofMediaType body.contentType

/-- One HTTP method on one path. -/
structure Operation where
  operationId : String
  method : String
  path : String
  parameters : List Parameter
  body : Option RequestBody

end SchemaGraph
