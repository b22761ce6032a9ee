import SchemaGraph.Document.Normal

/-!
# The shape of a schema

Before a schema is read, `shape` brings it and its subschemas into a form with one meaning. A
composition loses a type beside it, an `allOf` takes the object keywords beside it as one more
member, and a schema without a type gets the one that its keywords imply.
-/

namespace SchemaGraph.Document

/-- The keywords of compositions. When a schema has several, the first of these counts. -/
def compositionKeys : List String :=
  ["allOf", "oneOf", "anyOf"]

/-- The keywords that only an object schema has. -/
def objectKeys : List String :=
  ["properties", "required", "additionalProperties", "patternProperties"]

/-- The key that keeps the title of an `anyOf`. -/
def anyOfTitleKey : String := "x-typegraph-title"

/-- Whether a type keyword admits `null`. -/
def admitsNull : Option Json → Bool
  | some (.string type) => type = "null"
  | some (.array types) => types.any fun type => type.string? = some "null"
  | _ => false

/-- Take the fields with the given keys out of an object, in the order of the keys. -/
def takeFields : List String → Keyed Json → Keyed Json × Keyed Json
  | [], fields => ([], fields)
  | key :: keys, fields =>
      match Keyed.get? fields key with
      | some value =>
          let (taken, rest) := takeFields keys (Keyed.swapOut fields key)
          ((key, value) :: taken, rest)
      | none => takeFields keys fields

/-- Add one more schema to a list of schemas. -/
def addMember (member : Json) : Json → Json
  | .array members => .array (members ++ [member])
  | value => value

/-- Move the object keywords beside an `allOf` into a member of its own. -/
def moveOwnKeywords (fields : Keyed Json) : Keyed Json :=
  let (own, rest) := takeFields objectKeys fields
  if own.isEmpty then rest
  else Keyed.modify rest "allOf" (addMember (.object (own ++ [("type", .string "object")])))

/-- Keep the title of an `anyOf` under a key of its own. -/
def keepTitle (fields : Keyed Json) : Keyed Json :=
  match Keyed.get? fields "title" with
  | some title => Keyed.put (Keyed.swapOut fields "title") anyOfTitleKey title
  | none => fields

/-- Bring a composition into shape. A `null` in its type becomes a choice. -/
def shapeComposition (keyword : String) (fields : Keyed Json) : Json :=
  let type := Keyed.get? fields "type"
  let untyped := Keyed.swapOut fields "type"
  let shaped :=
    if keyword = "allOf" then moveOwnKeywords untyped
    else if keyword = "anyOf" then keepTitle untyped
    else untyped
  if admitsNull type then orNull (.object shaped) else .object shaped

/-- The type that the literals of an enum have, going by the first that is not `null`. -/
def typeOfLiterals? (literals : List Json) : Option String :=
  match literals.find? fun value => !value.isNull with
  | some (.array _) | some (.object _) | none => none
  | some value => typeOfValue? value

/-- The type that the keywords of a schema imply, `null` when they imply none. -/
def impliedType (fields : Keyed Json) : Json :=
  if objectKeys.any (Keyed.has fields) then .string "object"
  else if Keyed.has fields "items" || Keyed.has fields "prefixItems" then .string "array"
  else .textOrNull (((Keyed.get? fields "enum").bind Json.array?).bind typeOfLiterals?)

/-- Bring the fields of one schema into shape. A reference stays as it is. -/
def shapeFields (fields : Keyed Json) : Json :=
  if Keyed.has fields "$ref" then .object fields
  else
    match compositionKeys.find? (Keyed.has fields) with
    | some keyword => shapeComposition keyword fields
    | none => .object (putIfMissing fields "type" (impliedType fields))

/-- Bring one schema into shape. -/
def shapeStep (_ : Bool) : Json → Json
  | .object fields => shapeFields fields
  | value => value

/-- Bring a schema and its subschemas into shape. -/
def shape (schema : Json) : Json :=
  mapSchema shapeStep true schema

end SchemaGraph.Document
