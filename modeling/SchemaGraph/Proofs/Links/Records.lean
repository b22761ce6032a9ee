import SchemaGraph.Proofs.Links.RecordTypes
import SchemaGraph.Proofs.Links.SumTypes
import SchemaGraph.Proofs.Links.Types

/-!
# Links in records

Records name classes in their types and imports. All of these are classes of schemas of the table:
a type is one that the mapper gives (`Catalog.linked_modelRecord`, `linked_operationRecord`), and
what is imported belongs to such a type, to the parent of a model or to an alternative of its sum
type (`hintLinked_modelRecord`, `hintLinked_operationRecord`).
-/

namespace SchemaGraph

namespace Catalog

variable {catalog : Catalog}

/-- An import of a class is that of a schema of the table. -/
def HintLinked (catalog : Catalog) (hint : ImportHint) : Prop :=
  ∀ className fileName, hint = .model className fileName →
    ∃ schemaName ∈ catalog.table.names,
      className = catalog.namer.className schemaName ∧ fileName = catalog.namer.fileName schemaName

/-- A type that uses classes of schemas of the table, with its imports. -/
def Imported (catalog : Catalog) (type : TypeRef) (imports : List ImportHint) : Prop :=
  catalog.mapper.Linked type ∧ imports = type.imports

theorem hintLinked_classHint {name : String} (h : name ∈ catalog.table.names) :
    catalog.HintLinked (catalog.classHint name) := by
  rintro _ _ ⟨⟩
  exact ⟨name, h, rfl, rfl⟩

/-- A type whose classes are linked imports nothing else. -/
theorem hintLinked_of_mem_imports {type : TypeRef} (h : catalog.mapper.Linked type)
    {hint : ImportHint} (hhint : hint ∈ type.imports) : catalog.HintLinked hint := by
  rintro className fileName rfl
  obtain ⟨schemaName, hwithin⟩ := TypeRef.mem_imports_iff.1 hhint
  obtain ⟨hclass, hfile, schema, hget, _⟩ := h _ _ _ hwithin
  exact ⟨schemaName, Table.mem_names_of_get? hget, hclass, hfile⟩

/-- The imports of a type whose classes are linked. -/
theorem Imported.hintLinked {type : TypeRef} {imports : List ImportHint}
    (h : catalog.Imported type imports) {hint : ImportHint} (hhint : hint ∈ imports) :
    catalog.HintLinked hint :=
  hintLinked_of_mem_imports h.1 (h.2 ▸ hhint)

/-- The type of a schema where it is used only uses classes of schemas of the table. -/
theorem Typed.imported {payload : Payload} {type : TypeRef} {imports : List ImportHint}
    (h : catalog.Typed payload type imports) : catalog.Imported type imports := by
  obtain ⟨⟨subject, use, rfl⟩, himports⟩ := h
  exact ⟨(catalog.mapper.linked_schemaType subject).2 payload use, himports⟩

/-- The types in the content of a record use classes of schemas of the table, and its sum type is
the one discovered under the name. -/
structure Content.Linked (catalog : Catalog) (name : String) (content : Content) : Prop where
  properties : ∀ property ∈ content.properties, catalog.Imported property.type property.imports
  valueType : ∀ type ∈ content.valueType, catalog.mapper.Linked type
  sumType : ∀ sumType ∈ content.sumType,
    Keyed.get? catalog.discovery.sumTypes name = some sumType

/-- Whatever the schema of a record is, its content is linked. -/
theorem linked_content (catalog : Catalog) (name : String) (schema : Schema) :
    (catalog.content name schema).value.Linked catalog name where
  properties property hproperty :=
    ((catalog.typed_content name schema).properties property hproperty).imported
  valueType type htype := ((catalog.typed_content name schema).valueType type htype).imported.1
  sumType := by
    unfold content
    split
    · nofun
    · exact fun _ h => h
    · split <;> nofun
    · nofun

/-- The parent of a schema is the name of a composition of the table. -/
theorem hintLinked_parentHints (hsound : catalog.discovery.Sound catalog.table catalog.namer)
    {name : String} {hint : ImportHint} (hhint : hint ∈ catalog.parentHints name) :
    catalog.HintLinked hint := by
  obtain ⟨parent, hparent, rfl⟩ := mem_parentHints.1 hhint
  obtain ⟨sumType, hsumType, _⟩ := hsound.parents hparent
  obtain ⟨parts, hget, _⟩ := hsound.sumTypes hsumType
  exact hintLinked_classHint (Table.mem_names_of_get? hget)

/-- The imports of a model are those of its parent, of the alternatives of its sum type and of the
types in it, all of which are linked. -/
theorem hintLinked_modelImports (hsound : catalog.discovery.Sound catalog.table catalog.namer)
    {name className : String} {content : Content} (hcontent : content.Linked catalog name)
    {hint : ImportHint} (hhint : hint ∈ catalog.modelImports name className content.sumType
      content.properties content.valueType) : catalog.HintLinked hint := by
  rcases mem_of_mem_modelImports hhint with
    hparent | ⟨sumType, _, halternative⟩ | ⟨property, hmem, hproperty⟩ | ⟨type, hmem, hvalue⟩
  · exact hintLinked_parentHints hsound hparent
  · obtain ⟨schemaName, hmem, rfl⟩ := mem_names_of_mem_alternativeHints halternative
    exact hintLinked_classHint hmem
  · exact (hcontent.properties property hmem).hintLinked hproperty
  · exact hintLinked_of_mem_imports (hcontent.valueType type hmem) hvalue

/-- The classes within the types of a model's record. -/
theorem linked_modelRecord {name : String} {schema : Schema} {type : TypeRef}
    (htype : type ∈ (catalog.modelRecord name schema).value.types) :
    catalog.mapper.Linked type := by
  have hcontent := catalog.linked_content name schema
  rcases List.mem_append.1 htype with hproperty | hvalue
  · obtain ⟨property, hmem, rfl⟩ := List.mem_map.1 hproperty
    exact (hcontent.properties property hmem).1
  · exact hcontent.valueType type (Option.mem_toList.1 hvalue)

/-- The imports in a model's record. -/
theorem hintLinked_modelRecord (hsound : catalog.discovery.Sound catalog.table catalog.namer)
    {name : String} {schema : Schema} {hint : ImportHint}
    (hhint : hint ∈ (catalog.modelRecord name schema).value.hints) : catalog.HintLinked hint := by
  have hcontent := catalog.linked_content name schema
  rcases List.mem_append.1 hhint with himport | hproperty
  · exact hintLinked_modelImports hsound hcontent himport
  · obtain ⟨property, hmem, hhint⟩ := List.mem_flatMap.1 hproperty
    exact (hcontent.properties property hmem).hintLinked hhint

/-- The classes within the types of an operation's record. -/
theorem linked_operationRecord {operation : Operation} {type : TypeRef}
    (htype : type ∈ (catalog.operationRecord operation).value.types) :
    catalog.mapper.Linked type := by
  have htyped := catalog.operationTyped_operationRecord operation
  rcases List.mem_append.1 htype with hparameter | hpart
  · obtain ⟨parameter, hmem, rfl⟩ := List.mem_map.1 hparameter
    exact (htyped.parameters parameter hmem).imported.1
  · obtain ⟨body, hbody, hpart⟩ := mem_elim_iff.1 hpart
    rcases List.mem_cons.1 hpart with rfl | hfield
    · exact (htyped.body body hbody).type.imported.1
    · obtain ⟨field, hmem, rfl⟩ := List.mem_map.1 hfield
      exact ((htyped.body body hbody).fields field hmem).imported.1

/-- The imports in an operation's record. -/
theorem hintLinked_operationRecord {operation : Operation} {hint : ImportHint}
    (hhint : hint ∈ (catalog.operationRecord operation).value.hints) :
    catalog.HintLinked hint := by
  have htyped := catalog.operationTyped_operationRecord operation
  have hparameter : ∀ parameter ∈ (catalog.operationRecord operation).value.parameters,
      hint ∈ parameter.imports → catalog.HintLinked hint :=
    fun parameter hmem => (htyped.parameters parameter hmem).imported.hintLinked
  have hfield : ∀ body ∈ (catalog.operationRecord operation).value.body,
      ∀ field ∈ body.fields, hint ∈ field.imports → catalog.HintLinked hint :=
    fun body hbody field hmem => ((htyped.body body hbody).fields field hmem).imported.hintLinked
  simp only [OperationRecord.hints, List.mem_append, htyped.imports, List.mem_flatMap,
    mem_elim_iff] at hhint
  obtain ((⟨parameter, hmem, hhint⟩ | ⟨body, hbody, htype | ⟨field, hmem, hhint⟩⟩) |
    ⟨parameter, hmem, hhint⟩) | ⟨body, hbody, field, hmem, hhint⟩ := hhint
  · exact hparameter parameter hmem hhint
  · exact (htyped.body body hbody).type.imported.hintLinked htype
  · exact hfield body hbody field hmem hhint
  · exact hparameter parameter hmem hhint
  · exact hfield body hbody field hmem hhint

end Catalog

end SchemaGraph
