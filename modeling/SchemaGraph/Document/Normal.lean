import SchemaGraph.Document.Traversal
import SchemaGraph.Text.Class

/-!
# The normal form of a document

Several keywords say the same thing in different versions of the format. `normalize` settles them
for a whole document: Boolean schemas become objects, flags for nullability become part of the type,
a constant becomes an enum of one value, and every spelling of binary strings becomes a format.
-/

namespace SchemaGraph.Document

/-- The schema that a Boolean stands for: anything, or nothing. -/
def booleanSchema (flag : Bool) : Json :=
  if flag then .object [] else .object [("not", .object [])]

/-- Replace a Boolean that stands for a schema. -/
def replaceBoolean (place : Bool) (value : Json) : Json :=
  match place, value with
  | true, .bool flag => booleanSchema flag
  | _, value => value

/-- A schema without Boolean subschemas. -/
def normalizeBooleans (schema : Json) : Json :=
  mapSchema replaceBoolean true schema

/-- Change the fields of an object; other values stay as they are. -/
def onObject (change : Keyed Json → Keyed Json) : Json → Json
  | .object fields => .object (change fields)
  | value => value

/-- The keys whose values are schemas wherever they stand. -/
def payloadKeys : List String :=
  ["schema", "itemSchema", "contentSchema"]

mutual

/-- Normalize the Booleans of all schemas under payload keys. -/
def normalizePayloads : Json → Json
  | .array items => .array (normalizePayloadItems items)
  | .object fields => .object (normalizePayloadFields fields)
  | value => value

/-- `normalizePayloads` on every item. -/
def normalizePayloadItems : List Json → List Json
  | [] => []
  | value :: rest => normalizePayloads value :: normalizePayloadItems rest

/-- Normalize the schemas under payload keys and look for more of them under the others. -/
def normalizePayloadFields : List (String × Json) → List (String × Json)
  | [] => []
  | (key, value) :: rest =>
      (key, if payloadKeys.contains key then normalizeBooleans value else normalizePayloads value)
        :: normalizePayloadFields rest

end

/-- Normalize the Booleans of the named schemas in an object. -/
def normalizeNamedBooleans : Json → Json :=
  onObject fun schemas => Keyed.mapValues schemas normalizeBooleans

/-- Normalize the Booleans of all schemas of a document. -/
def normalizeDocumentBooleans (document : Json) : Json :=
  normalizePayloads (onObject (fun fields =>
    Keyed.modify
      (Keyed.modify fields "components" (onObject fun components =>
        Keyed.modify components "schemas" normalizeNamedBooleans))
      "definitions" normalizeNamedBooleans) document)

/-- The value of a flag, and the fields without it. Only a Boolean is a flag. -/
def takeFlag (fields : Keyed Json) (key : String) : Bool × Keyed Json :=
  match (Keyed.get? fields key).bind Json.bool? with
  | some flag => (flag, Keyed.swapOut fields key)
  | none => (false, fields)

/-- A type that admits `null` as well, if the value is a type at all. -/
def typeOrNull? : Json → Option Json
  | .array types =>
      if types.any fun type => type.string? = some "null" then some (.array types)
      else some (.array (types ++ [.string "null"]))
  | .string type =>
      if type = "null" then some (.string type)
      else some (.array [.string type, .string "null"])
  | _ => none

/-- Turn a flag for nullability into a part of the type, or into a choice when there is no type. -/
def settleNullable (fields : Keyed Json) : Json :=
  let (plain, fields) := takeFlag fields "nullable"
  let (extended, fields) := takeFlag fields "x-nullable"
  if plain || extended then
    match (Keyed.get? fields "type").bind typeOrNull? with
    | some type => .object (Keyed.put fields "type" type)
    | none => orNull (.object fields)
  else .object fields

/-- Turn all flags for nullability into types. -/
def normalizeNullable : Json → Json :=
  mapObjects settleNullable

/-- The type of a value. -/
def typeOfValue? : Json → Option String
  | .string _ => some "string"
  | .bool _ => some "boolean"
  | .number (.whole _) => some "integer"
  | .number (.binary _) => some "number"
  | .array _ => some "array"
  | .object _ => some "object"
  | .null => none

/-- A field that is added only when its key is missing. -/
def putIfMissing (fields : Keyed Json) (key : String) (value : Json) : Keyed Json :=
  if Keyed.has fields key then fields else Keyed.put fields key value

/-- Turn a constant into an enum of one value, with the type of the value when none is given. -/
def settleConst (fields : Keyed Json) : Json :=
  match Keyed.get? fields "const" with
  | none => .object fields
  | some value =>
      let rest := Keyed.swapOut fields "const"
      let typed := match typeOfValue? value with
        | some type => putIfMissing rest "type" (.string type)
        | none => rest
      .object (putIfMissing typed "enum" (.array [value]))

/-- Turn all constants into enums. -/
def normalizeConst : Json → Json :=
  mapObjects settleConst

/-- Whether a media type stands for bytes. -/
def isBinaryMediaType (mediaType : String) : Bool :=
  let media := Text.trim (mediaType.toList.takeWhile (· ≠ ';'))
  media = "application/octet-stream".toList || media = "application/pdf".toList ||
    ["image/", "audio/", "video/"].any fun family => family.toList.isPrefixOf media

/-- Whether a schema without a format is a string of bytes by its encoding or media type. The
encoding decides when both are given. -/
def spellsBinary (fields : Keyed Json) : Bool :=
  let isString := match Keyed.get? fields "type" with
    | none => true
    | some (.string type) => type = "string"
    | some (.array types) => types.any fun type => type.string? = some "string"
    | some _ => false
  let encoding := (Keyed.get? fields "contentEncoding").bind Json.string?
  let media := (Keyed.get? fields "contentMediaType").bind Json.string?
  !Keyed.has fields "format" && isString &&
    match encoding with
    | some encoding => encoding = "base64"
    | none => media.any isBinaryMediaType

/-- Give a binary string its format. -/
def settleBinary (fields : Keyed Json) : Json :=
  if spellsBinary fields then
    .object (putIfMissing (Keyed.put fields "format" (.string "binary")) "type" (.string "string"))
  else .object fields

/-- Give all binary strings their format. -/
def normalizeBinary : Json → Json :=
  mapObjects settleBinary

/-- The normal form of a document. -/
def normalize (document : Json) : Json :=
  normalizeBinary (normalizeConst (normalizeNullable (normalizeDocumentBooleans document)))

end SchemaGraph.Document
