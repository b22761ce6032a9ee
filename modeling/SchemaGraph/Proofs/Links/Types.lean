import SchemaGraph.Proofs.Resolution
import SchemaGraph.Typing.Mapping

/-!
# Classes in types

A type uses the class of a schema wherever `TypeRef.model` stands in it, under any number of lists
and maps. `TypeMapper.linked_typeOf` says that types only use classes that schemas of the table
have: resolution finds an entry or gives the unknown schema, and an entry that has no class of its
own is used in place.
-/

namespace SchemaGraph

namespace TypeRef

/-- A type that is another one or part of its items or values. -/
inductive Within (part : TypeRef) : TypeRef → Prop where
  | self : Within part part
  | list {item : TypeRef} (h : Within part item) : Within part (.list item)
  | map {value : TypeRef} (h : Within part value) : Within part (.map value)

variable {part : TypeRef} {schemaName className fileName : String}

/-- What is within a list and not all of it is within its items. -/
theorem Within.of_list {item : TypeRef} (h : Within part (.list item)) (hne : part ≠ .list item) :
    Within part item := by
  cases h with
  | self => exact absurd rfl hne
  | list hitem => exact hitem

/-- What is within a map and not all of it is within its values. -/
theorem Within.of_map {value : TypeRef} (h : Within part (.map value)) (hne : part ≠ .map value) :
    Within part value := by
  cases h with
  | self => exact absurd rfl hne
  | map hvalue => exact hvalue

/-- What a type that is neither list nor map imports. -/
def hint? : TypeRef → Option ImportHint
  | .model _ className fileName => some (.model className fileName)
  | .fileAttachment => some .fileAttachment
  | .byteBuffer => some .byteBuffer
  | _ => none

/-- A type imports what stands in it. -/
theorem mem_imports_iff_within {type : TypeRef} {hint : ImportHint} :
    hint ∈ type.imports ↔ ∃ part, part.hint? = some hint ∧ Within part type := by
  induction type with
  | list item ih =>
      rw [imports, ih]
      refine exists_congr fun part => and_congr_right fun hhint => ⟨.list, fun h => h.of_list ?_⟩
      rintro rfl
      cases hhint
  | map value ih =>
      rw [imports, ih]
      refine exists_congr fun part => and_congr_right fun hhint => ⟨.map, fun h => h.of_map ?_⟩
      rintro rfl
      cases hhint
  | model | scalar | fileAttachment | byteBuffer | any | unknown =>
      constructor
      · intro hmem
        refine ⟨_, ?_, .self⟩
        exact Option.mem_toList.1 hmem
      · rintro ⟨_, hhint, ⟨⟩⟩
        exact Option.mem_toList.2 hhint

/-- A type imports the classes that are used within it. -/
theorem mem_imports_iff {type : TypeRef} :
    .model className fileName ∈ type.imports ↔
      ∃ schemaName, Within (.model schemaName className fileName) type := by
  rw [mem_imports_iff_within]
  constructor
  · rintro ⟨part, hhint, hwithin⟩
    cases part <;> cases hhint
    exact ⟨_, hwithin⟩
  · rintro ⟨schemaName, hwithin⟩
    exact ⟨_, rfl, hwithin⟩

end TypeRef

/-- Whether a named schema is used through a class of its own. A scalar without literals, a schema
that admits any value and one that cannot be found are used in place, and an alias through the
schema it leads to. -/
def Schema.hasClass : Schema → Bool
  | .scalar leaf => leaf.isEnum
  | .array _ | .map _ | .object _ | .composition _ => true
  | .alias _ | .any | .unknown => false

namespace TypeMapper

variable {mapper : TypeMapper}

/-- Whatever holds of the types of scalars and of references, of any values and of unknown ones,
and is kept by lists and maps, holds of every type. The values of a map are plain. -/
theorem schemaType_cases (mapper : TypeMapper) (subject : Option String)
    (holds : Payload → TypeRef → Prop)
    (scalar : ∀ payload leaf, holds payload (scalarType payload leaf))
    (reference : ∀ payload reference,
      holds payload (mapper.referenceType payload subject reference).value)
    (list : ∀ payload item, holds payload item → holds payload (.list item))
    (map : ∀ payload value, holds .plain value → holds payload (.map value))
    (any : ∀ payload, holds payload .any) (unknown : ∀ payload, holds payload .unknown) :
    (∀ payload schema, holds payload (mapper.schemaType payload subject schema).value) ∧
    ∀ payload use, holds payload (mapper.typeOf payload subject use).value := by
  apply TypeMapper.schemaType.mutual_induct
  case case1 => exact scalar
  case case2 => exact fun payload _ ih => list payload _ ih
  case case3 => exact fun payload _ ih => map payload _ ih
  case case4 | case10 => exact reference
  case case5 => exact fun _ _ _ _ ih => ih
  case case6 =>
    intro payload parts hmany
    rw [schemaType]
    · exact any payload
    · exact hmany
  case case7 => exact fun payload _ => any payload
  case case8 => exact any
  case case9 => exact unknown
  case case11 => exact fun _ _ ih => ih

/-- The classes within a type are those of entries of the table that are used through a class. -/
def Linked (mapper : TypeMapper) (type : TypeRef) : Prop :=
  ∀ schemaName className fileName,
    TypeRef.Within (.model schemaName className fileName) type →
      className = mapper.namer.className schemaName ∧
      fileName = mapper.namer.fileName schemaName ∧
      ∃ schema, mapper.table.get? schemaName = some schema ∧ schema.hasClass

theorem Linked.list {item : TypeRef} (h : mapper.Linked item) : mapper.Linked (.list item) :=
  fun _ _ _ hwithin => h _ _ _ (hwithin.of_list nofun)

theorem Linked.map {value : TypeRef} (h : mapper.Linked value) : mapper.Linked (.map value) :=
  fun _ _ _ hwithin => h _ _ _ (hwithin.of_map nofun)

/-- The class of an entry that has one. -/
theorem linked_modelType {name : String} {schema : Schema}
    (hget : mapper.table.get? name = some schema) (hclass : schema.hasClass) :
    mapper.Linked (mapper.modelType name) := by
  rintro _ _ _ ⟨⟩
  exact ⟨rfl, rfl, schema, hget, hclass⟩

theorem linked_scalarType {payload : Payload} {leaf : Scalar} :
    mapper.Linked (scalarType payload leaf) := by
  intro _ _ _ hwithin
  unfold scalarType at hwithin
  split at hwithin
  · cases payload <;> cases hwithin
  · cases hwithin

theorem linked_any : mapper.Linked .any := nofun

theorem linked_unknown : mapper.Linked .unknown := nofun

/-- The type of an entry is its class, if it has one. -/
theorem linked_resolvedType {payload : Payload} {resolved : Resolved}
    (hget : mapper.table.get? resolved.name = some resolved.schema)
    (hdefinition : resolved.schema.IsDefinition) :
    mapper.Linked (mapper.resolvedType payload resolved) := by
  obtain ⟨name, schema⟩ := resolved
  cases schema with
  | unknown => exact linked_unknown
  | any => exact linked_any
  -- Resolution goes on from an alias, so that it never ends at one.
  | «alias» reference => exact absurd rfl (hdefinition reference)
  | scalar leaf =>
      unfold resolvedType
      dsimp only
      split
      · next henum => exact linked_modelType hget henum
      · exact linked_scalarType
  | array | map | object | composition => exact linked_modelType hget rfl

/-- A reference that cannot be resolved gives no class. -/
theorem linked_referenceType {payload : Payload} {subject : Option String} {reference : String} :
    mapper.Linked (mapper.referenceType payload subject reference).value := by
  rw [referenceType, Reported.value_bind, Table.value_resolve]
  cases hresolve : mapper.table.resolve? reference with
  | ok resolved =>
      have hleads := Table.resolve?_eq_ok_iff.1 hresolve
      exact linked_resolvedType hleads.get? hleads.isDefinition
  | error failure => exact linked_unknown

/-- Types only use the classes of entries of the table. -/
theorem linked_schemaType (mapper : TypeMapper) (subject : Option String) :
    (∀ payload schema, mapper.Linked (mapper.schemaType payload subject schema).value) ∧
    ∀ payload use, mapper.Linked (mapper.typeOf payload subject use).value := by
  apply mapper.schemaType_cases subject fun _ => mapper.Linked
  case scalar => exact fun _ _ => linked_scalarType
  case reference => exact fun _ _ => linked_referenceType
  case list => exact fun _ _ h => h.list
  case map => exact fun _ _ h => h.map
  case any => exact fun _ => linked_any
  case unknown => exact fun _ => linked_unknown

end TypeMapper

end SchemaGraph
