import SchemaGraph.Json.Value

/-!
# Traversing documents

Two ways of applying a step throughout a value, innermost parts first. `mapObjects` visits every
object outside instance data, whatever it means. `mapSchema` visits a schema and its subschemas,
which it finds by the keywords that hold them.
-/

namespace SchemaGraph.Document

/-- The keywords whose values are instance data. -/
def dataKeys : List String :=
  ["example", "examples", "default", "enum", "const"]

/-- The keywords that hold one subschema. -/
def schemaKeys : List String :=
  ["items", "not", "contains", "propertyNames", "if", "then", "else", "additionalProperties",
   "unevaluatedProperties", "unevaluatedItems"]

/-- The keywords that hold a list of subschemas. -/
def schemaListKeys : List String :=
  ["allOf", "anyOf", "oneOf", "prefixItems"]

/-- The keywords that hold subschemas by name. -/
def schemaMapKeys : List String :=
  ["properties", "patternProperties", "dependentSchemas"]

mutual

/-- Apply a step to every object outside instance data. -/
def mapObjects (step : Keyed Json → Json) : Json → Json
  | .array items => .array (mapObjectsItems step items)
  | .object fields => step (mapObjectsFields step fields)
  | value => value

/-- `mapObjects` on every item. -/
def mapObjectsItems (step : Keyed Json → Json) : List Json → List Json
  | [] => []
  | value :: rest => mapObjects step value :: mapObjectsItems step rest

/-- `mapObjects` on every field's value, except for instance data. -/
def mapObjectsFields (step : Keyed Json → Json) : List (String × Json) → List (String × Json)
  | [] => []
  | (key, value) :: rest =>
      (key, if dataKeys.contains key then value else mapObjects step value)
        :: mapObjectsFields step rest

end

mutual

/-- Apply a step to a schema and its subschemas. The flag tells the step whether a Boolean stands
for a schema at this place. -/
def mapSchema (step : Bool → Json → Json) (place : Bool) : Json → Json
  | .object fields => step place (.object (mapSchemaFields step fields))
  | value => step place value

/-- Apply a step to the subschemas in the fields of a schema. A Boolean stands for a schema under
`items` and `not`; under the other keywords with one subschema it is a keyword's value. -/
def mapSchemaFields (step : Bool → Json → Json) : List (String × Json) → List (String × Json)
  | [] => []
  | (key, value) :: rest =>
      let mapped :=
        if schemaKeys.contains key then mapSchema step (key = "items" || key = "not") value
        else if schemaListKeys.contains key then mapSchemaList step value
        else if schemaMapKeys.contains key then mapSchemaMap step value
        else value
      (key, mapped) :: mapSchemaFields step rest

/-- Apply a step to the schemas in a list. -/
def mapSchemaList (step : Bool → Json → Json) : Json → Json
  | .array items => .array (mapSchemas step items)
  | value => value

/-- Apply a step to the schemas of an object. -/
def mapSchemaMap (step : Bool → Json → Json) : Json → Json
  | .object fields => .object (mapNamedSchemas step fields)
  | value => value

/-- Apply a step to schemas. -/
def mapSchemas (step : Bool → Json → Json) : List Json → List Json
  | [] => []
  | value :: rest => mapSchema step true value :: mapSchemas step rest

/-- Apply a step to named schemas. -/
def mapNamedSchemas (step : Bool → Json → Json) : List (String × Json) → List (String × Json)
  | [] => []
  | (key, value) :: rest => (key, mapSchema step true value) :: mapNamedSchemas step rest

end

/-- A schema that admits `null` or what another one admits. -/
def orNull (schema : Json) : Json :=
  .object [("anyOf", .array [schema, .object [("type", .string "null")]])]

end SchemaGraph.Document
