import SchemaGraph.Document.Shape
import SchemaGraph.Reference.Location
import SchemaGraph.Schema.Basic

/-!
# Reading schemas

`readings` gives every way in which a value can be read: as a schema, as a place where a schema is
used, or as a collection of such places. A schema is read as the first of list, object, `oneOf`,
`allOf` and `anyOf` whose keywords are all in order; one keyword that is not, or one subschema that
cannot be read, rules a form out. Whether a schema admits `null` is read off it and handed to the
place where it is used.
-/

namespace SchemaGraph.Document

/-- The word that a value writes: a text, or an object with the word as its only name and `null` as
its value. -/
def wordOf? : Json → Option String
  | .string word => some word
  | .object [(word, .null)] => some word
  | _ => none

/-- The words for types. -/
inductive TypeWord where
  | object
  | string
  | integer
  | number
  | boolean
  | array
  | null
  deriving DecidableEq, Repr

/-- The type that a word names. -/
def TypeWord.parse? : String → Option TypeWord
  | "object" => some .object
  | "string" => some .string
  | "integer" => some .integer
  | "number" => some .number
  | "boolean" => some .boolean
  | "array" => some .array
  | "null" => some .null
  | _ => none

/-- The value of a type keyword: one type, a choice of types, or none in particular. -/
inductive TypeSpec where
  | one (word : TypeWord)
  | several (words : List TypeWord)
  | unspecified
  deriving DecidableEq, Repr

namespace TypeSpec

/-- The type keyword that a value writes. -/
def ofJson? : Json → Option TypeSpec
  | .array words => (words.mapM fun word => (wordOf? word).bind TypeWord.parse?).map .several
  | .null => some .unspecified
  | value => ((wordOf? value).bind TypeWord.parse?).map .one

/-- The first type other than `null`. -/
def effective? : TypeSpec → Option TypeWord
  | .one .null => none
  | .one word => some word
  | .several words => words.find? fun word => word ≠ .null
  | .unspecified => none

/-- Whether `null` is one of the types. -/
def admitsNull : TypeSpec → Bool
  | .one word => word = .null
  | .several words => words.contains .null
  | .unspecified => false

end TypeSpec

/-- The formats that need not be written as texts. -/
def knownFormats : List String :=
  ["int32", "int64", "float", "double", "byte", "binary", "time", "date", "date-time", "duration",
   "password", "uuid", "email", "idn-email", "hostname", "idn-hostname", "ipv4", "ipv6",
   "uri-template", "json-pointer", "relative-json-pointer", "regex"]

/-- The format that a value writes. -/
def formatOf? : Json → Option String
  | .string format => some format
  | value => (wordOf? value).filter knownFormats.contains

/-- A schema that was read: how it is used, whether it admits `null`, and whether it admits nothing
else because its type is just `null`. -/
structure Reading where
  use : SchemaUse
  nullable : Bool
  isNull : Bool

/-- A schema in place that is not just `null`. -/
def Reading.inPlace (schema : Schema) (nullable : Bool) : Reading :=
  ⟨.inline schema, nullable, false⟩

/-- The ways in which a value can be read. -/
structure Readings where
  /-- As a schema or a reference to one. -/
  asUse : Option Reading
  /-- As a schema. -/
  asSchema : Option Reading
  /-- As a list of schemas or references. -/
  asUses : Option (List Reading)
  /-- As a list of schemas. -/
  asSchemas : Option (List Reading)
  /-- As schemas or references by name. -/
  asNamedUses : Option (Keyed Reading)

/-- The readings of a value that cannot be read in any of the ways. -/
def Readings.none : Readings := ⟨.none, .none, .none, .none, .none⟩

/-- A list, or nothing when one of its items is missing. -/
def allPresent {α : Type} : List (Option α) → Option (List α)
  | [] => some []
  | some value :: rest => (allPresent rest).map (value :: ·)
  | none :: _ => none

/-- Whether a value is a text. -/
def isText (value : Json) : Bool := value.string?.isSome

/-- Whether a value is a text or `null`. -/
def isTextOrNull (value : Json) : Bool := value.isNull || isText value

/-- Whether a value is a Boolean. -/
def isFlag (value : Json) : Bool := value.bool?.isSome

/-- Whether a value is a Boolean or `null`. -/
def isFlagOrNull (value : Json) : Bool := value.isNull || isFlag value

/-- Whether a value is a list. -/
def isList (value : Json) : Bool := value.array?.isSome

/-- Whether a value is a list or `null`. -/
def isListOrNull (value : Json) : Bool := value.isNull || isList value

/-- Whether a value is a list of texts. -/
def isTextList (value : Json) : Bool := value.array?.any fun items => items.all isText

/-- Whether a value is a number or `null`. -/
def isNumberOrNull : Json → Bool
  | .number _ => true
  | value => value.isNull

/-- Whether a value is a whole number that is not negative, or `null`. -/
def isSizeOrNull (value : Json) : Bool := value.isNull || value.natural?.isSome

/-- Whether a field, if it is there, has a value of a kind. -/
def allows (fields : Keyed Json) (kind : Json → Bool) (key : String) : Bool :=
  (Keyed.get? fields key).all kind

/-- Whether all of some fields that are there have values of a kind. -/
def allowAll (fields : Keyed Json) (kind : Json → Bool) (keys : List String) : Bool :=
  keys.all (allows fields kind)

/-- Whether a value describes how a schema is written in XML, by name or by position. -/
def isXml : Json → Bool
  | .object fields =>
      allowAll fields isTextOrNull ["name", "namespace", "prefix"] &&
        allowAll fields isFlagOrNull ["attribute", "wrapped"]
  | .array (name :: space :: short :: flags) =>
      [name, space, short].all isTextOrNull && flags.length = 2 && flags.all isFlagOrNull
  | value => value.isNull

/-- Whether the type keyword, if it is there, is in order. -/
def typeInOrder (fields : Keyed Json) : Bool :=
  allows fields (fun value => (TypeSpec.ofJson? value).isSome) "type"

/-- The title and description of a schema. -/
def docsOf (fields : Keyed Json) : Docs :=
  ⟨(Keyed.get? fields "title").bind Json.string?,
    (Keyed.get? fields "description").bind Json.string?⟩

/-- The literals of a schema. -/
def literalsOf (fields : Keyed Json) : List Json :=
  ((Keyed.get? fields "enum").bind Json.array?).getD []

/-- The scalar kind of a literal. -/
def scalarKindOfLiteral? : Json → Option ScalarKind
  | .string _ => some .string
  | .bool _ => some .boolean
  | .number (.whole _) => some .integer
  | .number (.binary _) => some .number
  | _ => none

/-- A way in which a subschema is read. -/
abbrev Facet (α : Type) := Readings → Option α

/-- Read a field in some way. A missing field is fine, one that cannot be read is not. -/
def readField? {α : Type} (parts : Keyed Readings) (facet : Facet α) (key : String) :
    Option (Option α) :=
  match Keyed.get? parts key with
  | some readings => (facet readings).map some
  | none => some none

/-- Read a field in some way, unless it is missing or has a value that stands for itself. -/
def readFieldUnless? {α : Type} (fields : Keyed Json) (parts : Keyed Readings)
    (plain : Json → Bool) (facet : Facet α) (key : String) : Option (Option α) :=
  if (Keyed.get? fields key).any plain then some none else readField? parts facet key

/-- Read a list schema. -/
def readArray? (fields : Keyed Json) (parts : Keyed Readings) : Option Reading := do
  let type ← (Keyed.get? fields "type").bind TypeSpec.ofJson?
  let itemsValue ← Keyed.get? fields "items"
  let items ←
    if itemsValue.bool? = some false then some (Use.inline Schema.any)
    else (readField? parts Readings.asUse "items").bind fun found => found.map Reading.use
  let _ ← readField? parts Readings.asSchemas "prefixItems"
  let inOrder :=
    allowAll fields isTextOrNull ["title", "description"] &&
      allows fields isFlagOrNull "deprecated" && allows fields isList "examples" &&
      allowAll fields isSizeOrNull ["minItems", "maxItems"] &&
      allows fields isFlag "uniqueItems" && allows fields isXml "xml" &&
      allowAll fields isText ["contentEncoding", "contentMediaType"]
  if inOrder then some (.inPlace (.array items) type.admitsNull) else none

/-- Whether the keywords of an object schema that hold no subschema are in order. -/
def objectInOrder (fields : Keyed Json) : Bool :=
  allowAll fields isTextOrNull ["title", "description", "pattern"] &&
    allows fields (fun value => value.isNull || (formatOf? value).isSome) "format" &&
    allows fields isListOrNull "enum" && allows fields isTextList "required" &&
    allowAll fields isFlagOrNull ["deprecated", "readOnly", "writeOnly"] &&
    allows fields isList "examples" && allows fields isXml "xml" &&
    allowAll fields isNumberOrNull
      ["multipleOf", "maximum", "minimum", "exclusiveMaximum", "exclusiveMinimum"] &&
    allowAll fields isSizeOrNull ["maxLength", "minLength", "maxProperties", "minProperties"] &&
    allowAll fields isText ["contentEncoding", "contentMediaType"]

/-- The names of a list of texts. -/
def namesIn (value : Json) : List String :=
  (value.array?.getD []).filterMap Json.string?

/-- The object schema with the given properties. -/
def objectShape (fields : Keyed Json) (properties : Keyed Reading) : ObjectShape where
  properties := Keyed.mapValues properties Reading.use
  required := NameSet.addAll [] ((Keyed.get? fields "required").elim [] namesIn)
  nullable := (properties.filter fun entry => entry.2.nullable).map Prod.fst
  docs := docsOf fields

/-- The scalar schema of a kind. -/
def scalarOf (fields : Keyed Json) (kind : ScalarKind) : Schema :=
  .scalar ⟨kind, (Keyed.get? fields "format").bind formatOf?, literalsOf fields, docsOf fields⟩

/-- The type of the values under other names than those of the properties: one that is given, any
type, or nothing when the keyword is missing. -/
inductive Additional where
  | typed (use : SchemaUse)
  | free
  | absent

/-- The schema of the additional properties of an object. -/
def readAdditional? (fields : Keyed Json) (parts : Keyed Readings) : Option Additional :=
  match Keyed.get? fields "additionalProperties" with
  | none | some .null => some .absent
  | some (.bool _) => some .free
  | some _ =>
      (readField? parts Readings.asUse "additionalProperties").bind fun found =>
        found.map fun reading => .typed reading.use

/-- The schema of an object without a type of its own: a scalar by its literals, or any value. -/
def untypedSchema (fields : Keyed Json) : Schema :=
  match (literalsOf fields).findSome? scalarKindOfLiteral? with
  | some kind => scalarOf fields kind
  | none => .any

/-- The schema of an object: a map when it has additional properties only, an object otherwise. -/
def structuredSchema (fields : Keyed Json) (typed : Bool) (properties : Keyed Reading)
    (additional : Additional) : Schema :=
  match properties.isEmpty, additional with
  | true, .typed use => .map use
  | true, .free => .map (.inline .any)
  | empty, _ =>
      if !typed && empty && ((Keyed.get? fields "required").elim [] namesIn).isEmpty then
        untypedSchema fields
      else .object (objectShape fields properties)

/-- The schema that an object schema stands for, by its type. -/
def schemaOfType (fields : Keyed Json) (type : Option TypeWord) (properties : Keyed Reading)
    (additional : Additional) : Schema :=
  match type with
  | some .string => scalarOf fields .string
  | some .integer => scalarOf fields .integer
  | some .number => scalarOf fields .number
  | some .boolean => scalarOf fields .boolean
  | some .array => .array (.inline .any)
  | some .object => structuredSchema fields true properties additional
  | none => structuredSchema fields false properties additional
  | some .null => .any

/-- Read an object schema, which is also the form of scalars. -/
def readObject? (fields : Keyed Json) (parts : Keyed Readings) : Option Reading := do
  let type ← (Keyed.get? fields "type").bind TypeSpec.ofJson?
  let properties ← readField? parts Readings.asNamedUses "properties"
  let additional ← readAdditional? fields parts
  let _ ← readFieldUnless? fields parts Json.isNull Readings.asSchema "propertyNames"
  if objectInOrder fields then
    let schema := schemaOfType fields type.effective? (properties.getD []) additional
    some ⟨.inline schema, type.admitsNull, type = .one .null⟩
  else none

/-- Read the members of a composition: those that are not just `null`, and whether the composition
admits `null`. The members of an `allOf` do not hand on that they do. -/
def compositionParts (kind : CompositionKind) (members : List Reading) : List SchemaUse × Bool :=
  let kept := members.filter fun member => !member.isNull
  let handsOn := kind ≠ .allOf && kept.any Reading.nullable
  (kept.map Reading.use, members.any Reading.isNull || handsOn)

/-- The composition of members. A choice between one schema and `null` is just that schema. -/
def compositionReading (kind : CompositionKind) (members : List Reading)
    (discriminator : Option Discriminator) (docs : Docs) : Reading :=
  match kind, compositionParts kind members with
  | .allOf, (uses, nullable) => .inPlace (.composition ⟨.allOf, uses, discriminator, docs⟩) nullable
  | _, ([single], true) => ⟨single, true, false⟩
  | kind, (uses, nullable) => .inPlace (.composition ⟨kind, uses, discriminator, docs⟩) nullable

/-- Whether one text comes before another in the order of their octets. -/
def textBefore (left right : String) : Bool :=
  left ≤ right

/-- Read a discriminator. Its mapping comes out in the order of the wire values. -/
def readDiscriminator? (address : Option String) : Json → Option (Option Discriminator)
  | .null => some none
  | .object fields => do
      let name ← (Keyed.get? fields "propertyName").bind Json.string?
      let mapping ← match Keyed.get? fields "mapping" with
        | none => some []
        | some value => do
            let entries ← value.object?
            allPresent (entries.map fun (wire, target) =>
              target.string?.map fun text => (wire, text))
      let sorted := mapping.mergeSort fun left right => textBefore left.1 right.1
      pure (some ⟨name, sorted.map fun (wire, target) =>
        ⟨wire, Reference.localize address target⟩⟩)
  | _ => none

/-- Read a composition with the given keyword. -/
def readComposition? (address : Option String) (kind : CompositionKind) (fields : Keyed Json)
    (parts : Keyed Readings) : Option Reading := do
  let members ← (readField? parts Readings.asUses kind.keyword).bind id
  let discriminator ← match Keyed.get? fields "discriminator" with
    | some value => readDiscriminator? address value
    | none => some none
  let titleKeys := if kind = .anyOf then [] else ["title"]
  let inOrder :=
    allowAll fields isTextOrNull ("description" :: titleKeys) &&
      allows fields isList "examples" && typeInOrder fields
  let title := if kind = .anyOf then anyOfTitleKey else "title"
  let docs : Docs :=
    ⟨(Keyed.get? fields title).bind Json.string?, (docsOf fields).description⟩
  let kept := if kind = .allOf then none else discriminator
  if inOrder then some (compositionReading kind members kept docs) else none

/-- Read a schema from its fields and the readings of their values. -/
def readSchema? (address : Option String) (fields : Keyed Json) (parts : Keyed Readings) :
    Option Reading :=
  readArray? fields parts <|> readObject? fields parts <|>
    readComposition? address .oneOf fields parts <|>
    readComposition? address .allOf fields parts <|>
    readComposition? address .anyOf fields parts

/-- Read a reference given by its fields. -/
def readReference? (address : Option String) (fields : Keyed Json) : Option Reading := do
  let reference ← (Keyed.get? fields "$ref").bind Json.string?
  if allowAll fields isText ["description", "summary"] then
    some ⟨.named (Reference.localize address reference), false, false⟩
  else none

/-- Read a reference given as a list: the reference, its description and its summary. -/
def readListedReference? (address : Option String) (items : List Json) : Option Reading :=
  match items with
  | .string reference :: rest =>
      if rest.length ≤ 2 && rest.all isText then
        some ⟨.named (Reference.localize address reference), false, false⟩
      else none
  | _ => none

/-- The readings of an object, given those of its values. -/
def fieldsReadings (address : Option String) (fields : Keyed Json) (parts : Keyed Readings) :
    Readings :=
  let schema := readSchema? address fields parts
  { asUse := readReference? address fields <|> schema
    asSchema := schema
    asUses := none
    asSchemas := none
    asNamedUses := allPresent (parts.map fun (key, readings) =>
      readings.asUse.map fun reading => (key, reading)) }

/-- The readings of a list, given those of its items. -/
def itemsReadings (address : Option String) (items : List Json) (parts : List Readings) :
    Readings :=
  { asUse := readListedReference? address items
    asSchema := none
    asUses := allPresent (parts.map Readings.asUse)
    asSchemas := allPresent (parts.map Readings.asSchema)
    asNamedUses := none }

mutual

/-- The readings of a value in a document with the given address. -/
def readings (address : Option String) : Json → Readings
  | .object fields => fieldsReadings address fields (readingsOfFields address fields)
  | .array items => itemsReadings address items (readingsOfItems address items)
  | _ => Readings.none

/-- The readings of items. -/
def readingsOfItems (address : Option String) : List Json → List Readings
  | [] => []
  | value :: rest => readings address value :: readingsOfItems address rest

/-- The readings of the values of fields. -/
def readingsOfFields (address : Option String) : List (String × Json) → List (String × Readings)
  | [] => []
  | (key, value) :: rest => (key, readings address value) :: readingsOfFields address rest

end

end SchemaGraph.Document
