import SchemaGraph.Proofs.Naming.ReservedWords
import SchemaGraph.Proofs.Session.Attachments

/-!
# Reserved words in the answers of a session

Each collection of identifiers in a record is made distinct on its own: the literals of an enum, the
properties of an object, the parameters of an operation and the fields of its body. So what is known
of a reserved word in such a collection holds of everything that a session answers
(`Session.reserved_identifiers`): words that a configuration adds come out in the ways of
`ReservedWords.MissedLiteral` only, and ordinary ones never do.
-/

namespace SchemaGraph

/-- The identifiers of the literals of a model. -/
def ModelRecord.literalIdentifiers (record : ModelRecord) : List String :=
  (record.literals.getD []).map EnumRecord.identifier

/-- The identifiers of the properties of a model. -/
def ModelRecord.propertyIdentifiers (record : ModelRecord) : List String :=
  record.properties.map PropertyRecord.identifier

/-- The identifiers of the parameters of an operation. -/
def OperationRecord.parameterIdentifiers (record : OperationRecord) : List String :=
  record.parameters.map FieldRecord.identifier

/-- The identifiers of the fields of a body. -/
def BodyRecord.fieldIdentifiers (record : BodyRecord) : List String :=
  record.fields.map FieldRecord.identifier

/-- The collections of identifiers of literals in an answer. -/
def Answer.literalIdentifiers (answer : Answer) : List (List String) :=
  answer.modelRecords.map ModelRecord.literalIdentifiers

/-- The collections of identifiers of properties, parameters and fields in an answer. -/
def Answer.nameIdentifiers (answer : Answer) : List (List String) :=
  answer.modelRecords.map ModelRecord.propertyIdentifiers ++
    answer.operationRecords.flatMap fun record =>
      record.parameterIdentifiers :: (record.body.map BodyRecord.fieldIdentifiers).toList

namespace Catalog

variable (catalog : Catalog)

/-- There is an identifier for each name. -/
@[simp]
theorem length_identifiers (names : List String) :
    (catalog.identifiers names).length = names.length := by
  rw [identifiers, Naming.distinct, Naming.length_distinctFrom, List.length_map]

/-- The identifiers of literals are made distinct. -/
theorem identifiers_enumRecords (leaf : Scalar) :
    ∃ texts : List String, (catalog.enumRecords leaf).map EnumRecord.identifier =
      Naming.distinct (texts.map catalog.namer.enumIdentifier) := by
  refine ⟨(leaf.literals.filter fun value => !value.isNull).map Json.literalText, ?_⟩
  rw [enumRecords, List.map_map]
  refine List.map_snd_zip ?_
  rw [Naming.distinct, Naming.length_distinctFrom, List.length_map]

/-- Every property of an object has an identifier. -/
theorem map_fst_identified (object : ObjectShape) :
    (catalog.identified object).map Prod.fst = object.properties := by
  refine List.map_fst_zip ?_
  rw [length_identifiers, Keyed.keys, List.length_map]

/-- The identifiers that go with the properties of an object are those of their names. -/
theorem identifiers_identified (object : ObjectShape) :
    (catalog.identified object).map Prod.snd =
      catalog.identifiers (Keyed.keys object.properties) := by
  refine List.map_snd_zip ?_
  rw [length_identifiers, Keyed.keys, List.length_map]

/-- The identifiers of properties are those of their names. -/
theorem identifiers_propertyRecords (owner : String) (object : ObjectShape) :
    (catalog.propertyRecords owner object).value.map PropertyRecord.identifier =
      catalog.identifiers (Keyed.keys object.properties) := by
  rw [propertyRecords, Reported.value_forAll, List.map_map, ← identifiers_identified]
  rfl

/-- The identifiers of parameters are those of their names. -/
theorem identifiers_parameterRecords (subject : String) (parameters : List Parameter) :
    (catalog.parameterRecords subject parameters).value.map FieldRecord.identifier =
      catalog.identifiers (parameters.map Parameter.name) := by
  rw [parameterRecords, Reported.value_forAll, List.map_map]
  refine List.map_snd_zip ?_
  rw [length_identifiers, List.length_map]

/-- The identifiers of the fields of a body are those of some names. -/
theorem identifiers_bodyFields (subject : String) (payload : Payload) (use : SchemaUse) :
    ∃ names, (catalog.bodyFields subject payload use).value.map FieldRecord.identifier =
      catalog.identifiers names := by
  rw [bodyFields, Reported.value_bind]
  split
  · exact ⟨[], rfl⟩
  · next object _ =>
      refine ⟨Keyed.keys object.properties, ?_⟩
      rw [Reported.value_forAll, List.map_map, ← identifiers_identified]
      rfl

/-- The identifiers of the fields in the record of a body are those of some names. -/
theorem identifiers_bodyRecord (subject : String) (body : RequestBody) :
    ∃ names, (catalog.bodyRecord subject body).value.fieldIdentifiers =
      catalog.identifiers names := by
  unfold bodyRecord
  cases body.format with
  | multipart => exact catalog.identifiers_bodyFields subject .multipart body.schema
  | form => exact catalog.identifiers_bodyFields subject .plain body.schema
  | json => exact ⟨[], rfl⟩
  | other => exact ⟨[], rfl⟩

/-- The identifiers of the literals of a model are made distinct. -/
theorem literalIdentifiers_modelRecord (name : String) (schema : Schema) :
    ∃ texts : List String, (catalog.modelRecord name schema).value.literalIdentifiers =
      Naming.distinct (texts.map catalog.namer.enumIdentifier) := by
  show ∃ texts : List String,
    ((catalog.content name schema).value.literals.getD []).map EnumRecord.identifier = _
  unfold content
  split
  · exact ⟨[], rfl⟩
  · exact ⟨[], rfl⟩
  · split
    · exact catalog.identifiers_enumRecords _
    · exact ⟨[], rfl⟩
  · exact ⟨[], rfl⟩

/-- The identifiers of the properties of a model are those of some names. -/
theorem propertyIdentifiers_modelRecord (name : String) (schema : Schema) :
    ∃ names, (catalog.modelRecord name schema).value.propertyIdentifiers =
      catalog.identifiers names := by
  show ∃ names, (catalog.content name schema).value.properties.map PropertyRecord.identifier = _
  unfold content
  split
  · exact ⟨_, catalog.identifiers_propertyRecords name _⟩
  · exact ⟨[], rfl⟩
  · split
    · exact ⟨[], rfl⟩
    · exact ⟨[], rfl⟩
  · exact ⟨[], rfl⟩

/-- Each collection of identifiers in the record of an operation is that of some names. -/
theorem identifiers_operationRecord (operation : Operation) {identifiers : List String}
    (h : identifiers = (catalog.operationRecord operation).value.parameterIdentifiers ∨
      identifiers ∈
        (catalog.operationRecord operation).value.body.map BodyRecord.fieldIdentifiers) :
    ∃ names, identifiers = catalog.identifiers names := by
  rw [value_operationRecord] at h
  rcases h with rfl | hfields
  · exact ⟨_, catalog.identifiers_parameterRecords _ _⟩
  · obtain ⟨record, hrecord, rfl⟩ := Option.map_eq_some_iff.1 hfields
    obtain ⟨body, _, rfl⟩ := Option.map_eq_some_iff.1 hrecord
    exact catalog.identifiers_bodyRecord _ body

end Catalog

/-- The identifiers of an answer are those that a catalog gives to some literals and names. -/
structure Answer.IdentifiedBy (catalog : Catalog) (answer : Answer) : Prop where
  literals : ∀ identifiers ∈ answer.literalIdentifiers, ∃ texts : List String,
    identifiers = Naming.distinct (texts.map catalog.namer.enumIdentifier)
  names : ∀ identifiers ∈ answer.nameIdentifiers, ∃ names,
    identifiers = catalog.identifiers names

namespace Session

variable {session : Session}

/-- The catalog of a session gives the identifiers of its answers. -/
theorem identifiedBy_perform (session : Session) (call : Call) :
    (session.perform call).1.IdentifiedBy session.catalog := by
  refine ⟨fun identifiers h => ?literals, fun identifiers h => ?names⟩
  case literals =>
    obtain ⟨record, hrecord, rfl⟩ := List.mem_map.1 h
    obtain ⟨name, schema, rfl⟩ := exists_modelRecord_of_mem hrecord
    exact session.catalog.literalIdentifiers_modelRecord name schema
  case names =>
    rcases List.mem_append.1 h with hmodel | hoperation
    · obtain ⟨record, hrecord, rfl⟩ := List.mem_map.1 hmodel
      obtain ⟨name, schema, rfl⟩ := exists_modelRecord_of_mem hrecord
      exact session.catalog.propertyIdentifiers_modelRecord name schema
    · obtain ⟨record, hrecord, hmem⟩ := List.mem_flatMap.1 hoperation
      obtain ⟨operation, rfl⟩ := exists_operationRecord_of_mem hrecord
      refine session.catalog.identifiers_operationRecord operation ?_
      simpa using hmem

/-- The catalog of a session gives the identifiers of its answers, whatever was asked before. -/
theorem identifiedBy_performAll (session : Session) (calls : List Call) :
    ∀ answer ∈ (session.performAll calls).1, answer.IdentifiedBy session.catalog := by
  intro answer hanswer
  obtain ⟨call, _, log, rfl⟩ := exists_call_of_mem_answers hanswer
  exact identifiedBy_perform { session with log := log } call

/-- A reserved word among the identifiers that a prepared session answers came out behind the
comparison with the reserved words: as a word with its underscore, as a name with its number, or as
a literal that is not compared. If all words that the configuration adds are ordinary, then no
identifier is reserved. -/
theorem reserved_identifiers (config : Config) (title : Option String) (operations : List Operation)
    (table : Table) (log : Log) (calls : List Call) :
    ∀ answer ∈ ((prepare config title operations table log).performAll calls).1,
      (∀ identifiers ∈ answer.nameIdentifiers, ∀ identifier ∈ identifiers,
        config.reserved.contains identifier →
          config.reserved.MissedName identifiers identifier) ∧
      (∀ identifiers ∈ answer.literalIdentifiers, ∀ identifier ∈ identifiers,
        config.reserved.contains identifier →
          config.reserved.MissedLiteral identifiers identifier) ∧
      ((∀ word ∈ config.reservedWords, ReservedWords.isOrdinary word) →
        ∀ identifiers ∈ answer.nameIdentifiers ++ answer.literalIdentifiers,
          ∀ identifier ∈ identifiers, ¬ config.reserved.contains identifier) := by
  intro answer hanswer
  have hidentified := identifiedBy_performAll _ calls answer hanswer
  have hnames : ∀ identifiers ∈ answer.nameIdentifiers, ∀ identifier ∈ identifiers,
      config.reserved.contains identifier → config.reserved.MissedName identifiers identifier := by
    intro identifiers hidentifiers identifier hmem hreserved
    obtain ⟨names, rfl⟩ := hidentified.names identifiers hidentifiers
    exact config.namer.missedName_of_mem hmem hreserved
  have hliterals : ∀ identifiers ∈ answer.literalIdentifiers, ∀ identifier ∈ identifiers,
      config.reserved.contains identifier →
        config.reserved.MissedLiteral identifiers identifier := by
    intro identifiers hidentifiers identifier hmem hreserved
    obtain ⟨texts, rfl⟩ := hidentified.literals identifiers hidentifiers
    exact config.namer.missedLiteral_of_mem hmem hreserved
  refine ⟨hnames, hliterals, ?_⟩
  intro hordinary identifiers hidentifiers identifier hmem hreserved
  have hword := ReservedWords.isOrdinary_of_contains_extend hordinary hreserved
  rcases List.mem_append.1 hidentifiers with hname | hliteral
  · exact (hnames identifiers hname identifier hmem hreserved).not_isOrdinary hword
  · exact (hliterals identifiers hliteral identifier hmem hreserved).not_isOrdinary hword

/-- A state without a name, and a form with a class, a label and two spellings of an id. -/
def desk : Table :=
  ⟨[("State", .scalar ⟨.string, none, [.string "", .string "12", .string "new"], Docs.none⟩),
    ("Form", .object ⟨[("class", .inline .any), ("label", .inline .any), ("id", .inline .any),
      ("Id", .inline .any)], [], [], Docs.none⟩)], by decide⟩

/-- Send the form, with its label as a parameter. -/
def filling : Operation :=
  ⟨"fill", "POST", "/forms", [⟨"label", .query, true, none, .inline .any, false⟩],
    some ⟨"application/x-www-form-urlencoded", .named "#/components/schemas/Form", true, none⟩⟩

/-- The identifiers of the form and of the state when `label` is reserved as well: none of them is a
reserved word. With four other words there is one of each way to miss a reserved word. -/
theorem desk_reserved_identifiers :
    let answers (words : List String) : List Answer :=
      ((prepare { Config.default with reservedWords := words } none [filling] desk
        .empty).performAll [.models, .operations]).1
    let missed := ["class_", "id2", "empty", "value12"]
    (answers ["label"]).map Answer.nameIdentifiers =
      [[[], ["class_", "label_", "id", "id2"]], [["label_"], ["class_", "label_", "id", "id2"]]] ∧
    (answers ["label"]).map Answer.literalIdentifiers = [[["empty", "value12", "new_"], []], []] ∧
    (∀ answer ∈ answers ["label"],
      ∀ identifiers ∈ answer.nameIdentifiers ++ answer.literalIdentifiers,
        ∀ identifier ∈ identifiers,
          ¬ (ReservedWords.builtin.extend ["label"]).contains identifier) ∧
    (answers missed).map Answer.nameIdentifiers =
      [[[], ["class_", "label", "id", "id2"]], [["label"], ["class_", "label", "id", "id2"]]] ∧
    (answers missed).map Answer.literalIdentifiers = [[["empty", "value12", "new_"], []], []] ∧
    ∀ answer ∈ answers missed, ∀ identifiers ∈ answer.literalIdentifiers,
      ∀ identifier ∈ identifiers, (ReservedWords.builtin.extend missed).contains identifier →
        (ReservedWords.builtin.extend missed).MissedLiteral identifiers identifier := by
  intro answers missed
  refine ⟨by decide +kernel, by decide +kernel, ?ordinary, by decide +kernel, by decide +kernel,
    ?missed⟩
  case ordinary =>
    intro answer hanswer
    have hreserved := reserved_identifiers _ none [filling] desk .empty _ answer hanswer
    exact hreserved.2.2 (by decide)
  case missed =>
    intro answer hanswer
    exact (reserved_identifiers _ none [filling] desk .empty _ answer hanswer).2.1

end Session

end SchemaGraph
