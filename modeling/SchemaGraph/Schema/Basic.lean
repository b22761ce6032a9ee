import SchemaGraph.Json.Value

/-!
# Schemas

A `Schema` is the definition of a data type in a document: a scalar, a list, a map, an object with
named properties, an alias, or a composition of other schemas. Where a schema is used, a
`SchemaUse` either names a definition by a reference or holds one in place.
-/

namespace SchemaGraph

/-- The four kinds of scalar. -/
inductive ScalarKind where
  | string
  | integer
  | number
  | boolean
  deriving DecidableEq, Repr

/-- The word for a scalar kind. -/
def ScalarKind.label : ScalarKind → String
  | .string => "string"
  | .integer => "integer"
  | .number => "number"
  | .boolean => "boolean"

/-- The title and the description of a schema. -/
structure Docs where
  title : Option String
  description : Option String
  deriving DecidableEq, Repr

/-- Neither title nor description. -/
def Docs.none : Docs := ⟨.none, .none⟩

/-- A scalar schema. When it has literals, only these values are allowed. -/
structure Scalar where
  kind : ScalarKind
  format : Option String
  literals : List Json
  docs : Docs
  deriving Repr

namespace Scalar

/-- A scalar with nothing but its kind. -/
def bare (kind : ScalarKind) : Scalar := ⟨kind, .none, [], Docs.none⟩

/-- Whether the scalar is a string of bytes. -/
def isBinary (scalar : Scalar) : Bool :=
  scalar.kind = .string && scalar.format = some "binary"

/-- Whether only certain values are allowed. -/
def isEnum (scalar : Scalar) : Bool :=
  !scalar.literals.isEmpty

end Scalar

/-- The keyword of a composition. -/
inductive CompositionKind where
  /-- Every member holds. -/
  | allOf
  /-- Exactly one member holds. -/
  | oneOf
  /-- At least one member holds. -/
  | anyOf
  deriving DecidableEq, Repr

/-- The keyword as it is written in a document. -/
def CompositionKind.keyword : CompositionKind → String
  | .allOf => "allOf"
  | .oneOf => "oneOf"
  | .anyOf => "anyOf"

/-- An entry of a discriminator mapping: a value of the tag property and the schema it selects. -/
structure MappingEntry where
  wireValue : String
  target : String
  deriving DecidableEq, Repr

/-- The property that tells the alternatives of a composition apart. -/
structure Discriminator where
  propertyName : String
  mapping : List MappingEntry
  deriving DecidableEq, Repr

/-- The place where a schema is used: a reference to a definition, or the definition itself. -/
inductive Use (definition : Type) where
  | named (reference : String)
  | inline (schema : definition)
  deriving Repr

/-- The properties of an object in order, with the names of those that have to be present and of
those that may be null. A required name need not be a property. -/
structure ObjectOf (definition : Type) where
  properties : List (String × Use definition)
  required : NameSet
  nullable : NameSet
  docs : Docs
  deriving Repr

/-- Schemas joined by a keyword. -/
structure CompositionOf (definition : Type) where
  kind : CompositionKind
  members : List (Use definition)
  discriminator : Option Discriminator
  docs : Docs
  deriving Repr

/-- The definition of a data type. -/
inductive Schema where
  | scalar (leaf : Scalar)
  /-- A list of items of one type. -/
  | array (items : Use Schema)
  /-- An object with arbitrary names and values of one type. -/
  | map (values : Use Schema)
  | object (shape : ObjectOf Schema)
  /-- Another name of the schema that a reference names. -/
  | alias (reference : String)
  | composition (parts : CompositionOf Schema)
  /-- Any value. -/
  | any
  /-- The stand-in for a reference that cannot be resolved. -/
  | unknown
  deriving Repr

/-- The place where a schema is used. -/
abbrev SchemaUse := Use Schema

/-- An object schema. -/
abbrev ObjectShape := ObjectOf Schema

/-- A composition of schemas. -/
abbrev Composition := CompositionOf Schema

/-- The object without properties. -/
def ObjectShape.empty : ObjectShape := ⟨[], [], [], Docs.none⟩

/-- Whether a composition is a sum type. -/
def CompositionOf.isSum {definition : Type} (composition : CompositionOf definition) : Bool :=
  composition.kind ≠ .allOf

namespace Schema

/-- Whether the schema is a `oneOf` or an `anyOf`. -/
def isSumType : Schema → Bool
  | .composition parts => parts.isSum
  | _ => false

/-- Whether the schema is an `allOf`. -/
def isAllOf : Schema → Bool
  | .composition parts => !parts.isSum
  | _ => false

/-- Whether the schema stands in for a reference that cannot be resolved. -/
def isUnknown : Schema → Bool
  | .unknown => true
  | _ => false

/-- There is one schema that stands in for what cannot be resolved. -/
theorem isUnknown_iff {schema : Schema} : schema.isUnknown ↔ schema = .unknown := by
  cases schema <;> simp [isUnknown]

/-- The word for the kind of a schema. -/
def label : Schema → String
  | .scalar leaf => leaf.kind.label
  | .array _ => "array"
  | .map _ => "map"
  | .object _ => "object"
  | .alias _ => "reference"
  | .composition parts => parts.kind.keyword
  | .any => "any"
  | .unknown => "unknown"

/-- The title and description of a schema that carries them. -/
def docs : Schema → Docs
  | .scalar leaf => leaf.docs
  | .object shape => shape.docs
  | .composition parts => parts.docs
  | _ => Docs.none

end Schema

namespace Use

variable {definition : Type}

/-- The reference of a named use. -/
def reference? : Use definition → Option String
  | .named reference => some reference
  | .inline _ => none

/-- The definition of an inline use. -/
def schema? : Use definition → Option definition
  | .named _ => none
  | .inline schema => some schema

end Use

/-- The reference of a use that names a schema, directly or through an inline alias. -/
def SchemaUse.target? : SchemaUse → Option String
  | .named reference => some reference
  | .inline (.alias reference) => some reference
  | .inline _ => none

end SchemaGraph
