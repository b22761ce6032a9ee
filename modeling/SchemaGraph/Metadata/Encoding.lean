import SchemaGraph.Graph.Cycle
import SchemaGraph.Metadata.Record

/-!
# Records as JSON

The structured output of records, with a fixed order of fields. A type, an import and an alternative
say in their field `kind` which of their forms they have.
-/

namespace SchemaGraph

namespace Json

/-- An object that says its kind in its first field. -/
def tagged (kind : String) (fields : List (String × Json)) : Json :=
  .object (("kind", .string kind) :: fields)

/-- A list encoded item by item. -/
def ofList {α : Type} (encode : α → Json) (items : List α) : Json :=
  .array (items.map encode)

/-- An optional value, `null` when it is absent. -/
def ofOption {α : Type} (encode : α → Json) : Option α → Json
  | some value => encode value
  | none => .null

end Json

/-- A diagnostic as JSON. -/
def Diagnostic.toJson (diagnostic : Diagnostic) : Json :=
  .object [("kind", .string diagnostic.kind.word), ("severity", .string diagnostic.severity.label),
    ("subject", .textOrNull diagnostic.subject), ("message", .string diagnostic.message)]

/-- The entries of a log as JSON. -/
def Log.toJson (log : Log) : Json :=
  .ofList Diagnostic.toJson log.entries

/-- A type as JSON. -/
def TypeRef.toJson : TypeRef → Json
  | .scalar kind format =>
      .tagged "primitive" [("primitive", .string kind.label), ("format", .textOrNull format)]
  | .model schemaName className fileName =>
      .tagged "model" [("schemaName", .string schemaName), ("className", .string className),
        ("fileName", .string fileName)]
  | .list item => .tagged "list" [("item", item.toJson)]
  | .map value => .tagged "map" [("value", value.toJson)]
  | .fileAttachment => .tagged "fileAttachment" []
  | .byteBuffer => .tagged "byteBuffer" []
  | .any => .tagged "any" []
  | .unknown => .tagged "unknown" []

/-- An import as JSON. -/
def ImportHint.toJson : ImportHint → Json
  | .model className fileName =>
      .tagged "model" [("className", .string className), ("fileName", .string fileName)]
  | .fileAttachment => .tagged "fileAttachment" []
  | .byteBuffer => .tagged "byteBuffer" []

/-- The fields of an alternative. -/
def Alternative.fields : Alternative → List (String × Json)
  | .reference schemaName className =>
      [("kind", .string "reference"), ("schemaName", .string schemaName),
       ("className", .string className)]
  | .wrapped kind wrapperName =>
      [("kind", .string "primitive"), ("primitiveKind", .string kind.label),
       ("wrapperName", .string wrapperName)]
  | .inline position syntheticName =>
      [("kind", .string "inline"), ("index", .ofNat position),
       ("syntheticName", .string syntheticName)]

/-- A listed alternative as JSON. -/
def ListedAlternative.toJson (listed : ListedAlternative) : Json :=
  .object (listed.alternative.fields ++ [("hasNext", .bool listed.hasNext)])

/-- A tag target as JSON. -/
def TagTarget.toJson (target : TagTarget) : Json :=
  .object [("wireValue", .string target.wireValue), ("schemaName", .string target.schemaName),
    ("className", .string target.className)]

/-- A tag as JSON. -/
def Tag.toJson (tag : Tag) : Json :=
  .object [("propertyName", .string tag.propertyName),
    ("mappings", .ofList TagTarget.toJson tag.mappings)]

/-- The word for a composition keyword in structured output. -/
def CompositionKind.word : CompositionKind → String
  | .allOf => "AllOf"
  | .oneOf => "OneOf"
  | .anyOf => "AnyOf"

/-- A sum type as JSON. -/
def SumType.toJson (sumType : SumType) : Json :=
  .object [("kind", .string sumType.kind.word),
    ("alternatives", .ofList ListedAlternative.toJson sumType.alternatives),
    ("discriminator", .ofOption Tag.toJson sumType.tag)]

/-- The parents of a registry as JSON. -/
def Registry.toJson (registry : Registry) : Json :=
  .object (Keyed.mapValues registry.parents .string)

/-- An edge as JSON. -/
def PropertyEdge.toJson (edge : PropertyEdge) : Json :=
  .object [("schema", .string edge.schema), ("property", .string edge.property),
    ("target", .string edge.target)]

/-- The record of an enum literal as JSON. -/
def EnumRecord.toJson (record : EnumRecord) : Json :=
  .object [("identifier", .string record.identifier), ("literalValue", .string record.literalText),
    ("isStringKind", .bool record.isString)]

/-- The record of a property as JSON. -/
def PropertyRecord.toJson (record : PropertyRecord) : Json :=
  .object [("name", .string record.name), ("identifier", .string record.identifier),
    ("typeRef", record.type.toJson), ("required", .bool record.required),
    ("nullable", .bool record.nullable), ("description", .textOrNull record.description),
    ("imports", .ofList ImportHint.toJson record.imports)]

/-- The record of a model as JSON. -/
def ModelRecord.toJson (record : ModelRecord) : Json :=
  .object [("schemaName", .string record.schemaName), ("className", .string record.className),
    ("fileName", .string record.fileName), ("title", .textOrNull record.docs.title),
    ("description", .textOrNull record.docs.description),
    ("isEnum", .bool record.literals.isSome),
    ("enumVariables", .ofList EnumRecord.toJson (record.literals.getD [])),
    ("isComposition", .bool record.sumType.isSome),
    ("composition", .ofOption SumType.toJson record.sumType),
    ("parentTypeName", .textOrNull record.parentClass),
    ("properties", .ofList PropertyRecord.toJson record.properties),
    ("valueType", .ofOption TypeRef.toJson record.valueType),
    ("imports", .ofList ImportHint.toJson record.imports)]

/-- The record of a field as JSON. -/
def FieldRecord.toJson (record : FieldRecord) : Json :=
  .object [("name", .string record.name), ("identifier", .string record.identifier),
    ("location", .textOrNull (record.location.map Location.label)),
    ("typeRef", record.type.toJson), ("required", .bool record.required),
    ("nullable", .bool record.nullable), ("description", .textOrNull record.description),
    ("imports", .ofList ImportHint.toJson record.imports)]

/-- The record of a body as JSON. -/
def BodyRecord.toJson (record : BodyRecord) : Json :=
  .object [("contentType", .string record.contentType), ("format", .string record.format.label),
    ("typeRef", record.type.toJson), ("required", .bool record.required),
    ("description", .textOrNull record.description),
    ("fields", .ofList FieldRecord.toJson record.fields)]

/-- The record of an operation as JSON. -/
def OperationRecord.toJson (record : OperationRecord) : Json :=
  .object [("operationId", .string record.operationId), ("method", .string record.method),
    ("path", .string record.path), ("parameters", .ofList FieldRecord.toJson record.parameters),
    ("body", .ofOption BodyRecord.toJson record.body),
    ("imports", .ofList ImportHint.toJson record.imports)]

end SchemaGraph
