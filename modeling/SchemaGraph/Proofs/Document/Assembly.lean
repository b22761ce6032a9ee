import SchemaGraph.Proofs.Document.Sections

/-!
# Loading part by part

A document of a known version is loaded exactly when its frame can be read (`load_assembled`). Each
schema and each path item is then loaded as it would be by itself: whatever stands in place of one
of them, the others are the same. A schema that cannot be read admits any value, a path item that
cannot be read has no operations, and both are reported.
-/

namespace SchemaGraph.Document

variable {document : Keyed Json} {text : String}

/-- The text under a key of a document. -/
def writtenText? (document : Keyed Json) (key : String) : Option String :=
  (Keyed.get? document key).bind Json.string?

/-- Whether a document declares a known version: one of 3 under `openapi`, or 2.0 under `swagger`
when there is no text under `openapi`. -/
def declaresVersion (document : Keyed Json) : Bool :=
  match writtenText? document "openapi", writtenText? document "swagger" with
  | some version, _ => "3.".toList.isPrefixOf version.toList
  | none, some version => version = "2.0" || "2.0.".toList.isPrefixOf version.toList
  | none, none => false

/-- The entry of the table for a schema under a name, and what is reported of it. -/
def Root.schemaAt (frame : Root) (name : String) (raw : Json) : Reported Schema :=
  (fun converted => entryOf converted.use) <$>
    convert frame.address (some name) (settleEntry name (normalizeBooleans raw))

/-- The operations of a path item at a path, and what is reported of it. -/
def Root.itemAt (frame : Root) (path : String) (raw : Json) : Reported (List Operation) :=
  frame.pathOperations [(path, settleEntry path raw)]

/-- A document is put together from its frame and from its schemas and path items, each loaded by
itself. -/
structure Loaded.AssembledFrom (loaded : Loaded) (frame : Root) (schemas paths : Keyed Json) :
    Prop where
  address : loaded.address = frame.address
  title : loaded.title = frame.title
  entries : loaded.table.entries =
    schemas.map fun entry => (entry.1, (frame.schemaAt entry.1 entry.2).value)
  operations : loaded.operations =
    paths.flatMap fun entry => (frame.itemAt entry.1 entry.2).value
  log : loaded.log =
    (Log.empty.record
      (schemas.flatMap fun entry => (frame.schemaAt entry.1 entry.2).reports)).record
      (paths.flatMap fun entry => (frame.itemAt entry.1 entry.2).reports)

/-- Parts that cannot be read are reported, and nothing else comes of them. -/
structure Root.Tolerates (frame : Root) : Prop where
  schema : ∀ name raw,
    (∃ reading, readingOf? frame.address (settleEntry name (normalizeBooleans raw)) = some reading ∧
      frame.schemaAt name raw = ⟨entryOf reading.use, []⟩) ∨
    (readingOf? frame.address (settleEntry name (normalizeBooleans raw)) = none ∧
      frame.schemaAt name raw = ⟨.any, [⟨some name, .unreadableSchema⟩]⟩)
  item : ∀ path raw, ¬ "x-".toList.isPrefixOf path.toList →
    (∃ item, PathItem.read? (settleEntry path raw) = some item ∧
      (frame.itemAt path raw).value.map (fun operation => (operation.path, operation.method)) =
        item.operations.map fun entry => (path, entry.1)) ∨
    (PathItem.read? (settleEntry path raw) = none ∧ frame.itemAt path raw =
      ⟨[], [⟨some path, .unreadablePathItem "unexpected structure"⟩]⟩)

theorem Root.tolerates (frame : Root) : frame.Tolerates := by
  refine ⟨fun name raw => ?schema, fun path raw hpath => frame.pathOperations_cases hpath _⟩
  case schema =>
    unfold schemaAt
    cases hread : readingOf? frame.address (settleEntry name (normalizeBooleans raw)) with
    | some reading =>
        refine .inl ⟨reading, rfl, ?_⟩
        rw [convert_eq_of_readingOf? hread]
        rfl
    | none =>
        refine .inr ⟨rfl, ?_⟩
        rw [readingOf?] at hread
        rw [convert, hread]
        rfl

/-- What is reported of named schemas is what is reported of each. -/
theorem reports_convertEntries (address : Option String) (schemas : Keyed Json) (table : Table) :
    (convertEntries address schemas table).reports =
      schemas.flatMap fun entry => (convert address (some entry.1) entry.2).reports := by
  induction schemas generalizing table with
  | nil => rfl
  | cons entry rest ih =>
      obtain ⟨name, raw⟩ := entry
      rw [convertEntries, Reported.reports_bind, ih, List.flatMap_cons]

/-- The fields of a frame outside the sections are those of the document in normal form. -/
theorem get?_bareOf {key : String} (hkey : key ∈ frameKeys) :
    Keyed.get? (bareOf document) key = Keyed.get? document key := by
  have hkeys : ∀ key ∈ frameKeys, key ≠ "components" ∧ key ≠ "definitions" ∧ key ≠ "paths" := by
    decide
  obtain ⟨hcomponents, hdefinitions, hpaths⟩ := hkeys key hkey
  rw [bareOf, Keyed.get?_modify, if_neg hpaths, Keyed.get?_modify, if_neg hdefinitions,
    Keyed.get?_modify, if_neg hcomponents]

/-- What is read as a text that may be missing is the text in the document. -/
theorem eq_writtenText?_of_frame {key : String} (hkey : key ∈ frameKeys) {found : Option String}
    (h : optionalText? (Keyed.mapValues (bareOf document) settle) key = some found) :
    found = writtenText? document key := by
  rw [writtenText?, ← get?_bareOf hkey]
  rw [optionalText?, Keyed.get?_mapValues] at h
  cases hfield : Keyed.get? (bareOf document) key with
  | none =>
      rw [hfield] at h
      cases h
      rfl
  | some value =>
      have hstring := string?_settle value
      rw [hfield, Option.map_some] at h
      rw [Option.bind_some, ← hstring]
      split at h
      · next heq => cases heq
      · next heq =>
          cases h
          rw [Option.some.inj heq]
          rfl
      · next heq =>
          obtain rfl := Option.some.inj h
          rw [Option.some.inj heq]
          rfl
      · cases h

/-- A document that declares a known version has a frame of a known version. -/
theorem versionFault?_frame {frame : Root} (hframe : frame? document = some frame)
    (hversion : declaresVersion document) : versionFault? frame = none := by
  simp only [frame?, Root.read?, bind, Option.bind_eq_some_iff, pure, Option.some.injEq] at hframe
  obtain ⟨openapi, hopenapi, swagger, hswagger, _, _, _, _, _, _, _, _, _, _, _, _, _, _, rfl⟩ :=
    hframe
  obtain rfl := eq_writtenText?_of_frame (by decide) hopenapi
  obtain rfl := eq_writtenText?_of_frame (by decide) hswagger
  unfold declaresVersion at hversion
  unfold versionFault?
  split at hversion
  · next version _ hfound =>
      simp only [hfound]
      exact if_pos hversion
  · next version hnone hfound =>
      simp only [hnone, hfound]
      exact if_pos hversion
  · cases hversion

/-- The schemas that are filled into a frame are the normal forms of those of the document. -/
theorem Root.schemas_filledFrom (frame : Root) (document : Keyed Json) :
    (frame.filledFrom document).schemas = settleSchemas (schemasOf document) := by
  have hempty (schemas : Keyed Json) : (settleSchemas schemas).isEmpty = schemas.isEmpty := by
    cases schemas <;> rfl
  simp only [Root.schemas, filledFrom, withSections, hempty, schemasOf]
  split <;> rfl

/-- A frame with schemas and path items is loaded part by part. -/
theorem assembledFrom_ofRoot (frame : Root) (hdistinct : Keyed.Distinct (schemasOf document)) :
    (ofRoot (frame.filledFrom document)).AssembledFrom frame (schemasOf document)
      (sectionOf document "paths") := by
  have hoperations : (frame.filledFrom document).operations =
      frame.pathOperations (mapNamed (sectionOf document "paths") settleEntry) :=
    (frame.sameShared_filledFrom document).pathOperations _
  have hschemas := frame.schemas_filledFrom document
  have hsettled : settleSchemas (schemasOf document) = (schemasOf document).map fun entry =>
      (entry.1, settleEntry entry.1 (normalizeBooleans entry.2)) := by
    rw [settleSchemas, mapNamed, Keyed.mapValues, List.map_map]
    rfl
  have hkeys : Keyed.Distinct (settleSchemas (schemasOf document)) := by
    rw [Keyed.Distinct, settleSchemas, keys_mapNamed]
    exact Keyed.Distinct.mapValues hdistinct normalizeBooleans
  refine ⟨rfl, rfl, ?table, ?operations, ?log⟩
  case table =>
    show (convertTable frame.address (frame.filledFrom document).schemas).value.entries = _
    rw [hschemas, entries_convertTable hkeys, hsettled, Keyed.mapValues, List.map_map]
    refine List.map_congr_left fun entry _ => ?_
    simp only [Function.comp_apply, Root.schemaAt, Reported.value_map,
      value_convert frame.address (some entry.1)]
  case operations =>
    show (frame.filledFrom document).operations.value = _
    rw [hoperations, Root.value_pathOperations, mapNamed, List.flatMap_map]
    rfl
  case log =>
    show (Log.empty.record
      (convertTable frame.address (frame.filledFrom document).schemas).reports).record
      (frame.filledFrom document).operations.reports = _
    rw [hoperations, Root.reports_pathOperations, mapNamed, List.flatMap_map, convertTable,
      reports_convertEntries, hschemas, hsettled, List.flatMap_map]
    simp only [Root.schemaAt, Root.itemAt, Reported.reports_map]

/-- A document that stays a mapping and cannot be read is malformed. -/
theorem ofValue_eq_malformed (hstays : StaysMapping (plainDocument document))
    (hread : Root.read? (normalDocument document) = none) :
    ofValue (.object document) = .error .malformed := by
  have hnormal : normalize (.object document) = settle (.object (plainDocument document)) := rfl
  rw [normalDocument] at hread
  rw [ofValue, hnormal, hstays.settle_eq, Json.object?, Option.bind_some, hread]

/-- The schemas of a document have distinct names. -/
theorem distinct_schemasOf (h : Json.KeysDistinct (.object document)) :
    Keyed.Distinct (schemasOf document) := by
  have hsection {fields : Keyed Json} (h : Json.KeysDistinct (.object fields)) (key : String) :
      Json.KeysDistinct (.object (sectionOf fields key)) := by
    unfold sectionOf
    cases hfound : Keyed.get? fields key with
    | none => exact .object List.nodup_nil nofun
    | some value =>
        have hvalue := h.of_get? hfound
        cases value with
        | object entries => exact hvalue
        | null | bool | number | string | array => exact .object List.nodup_nil nofun
  simp only [schemasOf]
  split
  · exact (hsection h _).distinct
  · exact (hsection (hsection h _) _).distinct

/-- A text that holds a document of a known version is loaded exactly when the frame of the document
can be read. The document is then put together part by part, and parts that cannot be read are
reported. -/
theorem load_assembled (hparse : Yaml.parse? text = some (.object document))
    (hversion : declaresVersion document) (hstays : StaysMapping document)
    (hsections : HasSections document) :
    (frame? document = none → load text = .error .malformed) ∧
    ∀ frame, frame? document = some frame → ∃ loaded, load text = .ok loaded ∧
      loaded.AssembledFrom frame (schemasOf document) (sectionOf document "paths") ∧
      frame.Tolerates := by
  have hdistinct := Yaml.keysDistinct_of_parse? hparse
  have hload : load text = ofValue (.object document) := by rw [load, hparse]
  have hread := read?_eq_filledFrom hdistinct hsections
  have hplain : StaysMapping (plainDocument document) :=
    (hstays.modify hdistinct.distinct (by decide) _).modify (hdistinct.distinct.modify _ _)
      (by decide) _
  constructor
  · intro hframe
    rw [hframe, Option.map_none] at hread
    rw [hload, ofValue_eq_malformed hplain hread]
  · intro frame hframe
    rw [hframe, Option.map_some] at hread
    refine ⟨_, ?_, assembledFrom_ofRoot frame (distinct_schemasOf hdistinct), frame.tolerates⟩
    have hfault : versionFault? frame = none := versionFault?_frame hframe hversion
    rw [hload]
    exact ofValue_eq_ok_iff.2 ⟨hplain, _, hread, hfault, rfl⟩

/-- A document with a pet, a schema and a path item that cannot be read, and an operation. -/
def kennelText : String :=
  "\n".intercalate
    ["openapi: 3.0.0", "components:", "  schemas:", "    Odd: 5", "    Pet:", "      type: string",
     "paths:", "  /odd: 5", "  /pets:", "    get:", "      operationId: list"]

/-- The pet and the operation are loaded beside the two faults. -/
theorem kennel_assembled :
    ∃ document frame loaded,
      (Yaml.parse? kennelText = some (.object document) ∧ declaresVersion document ∧
        StaysMapping document ∧ HasSections document ∧ frame? document = some frame) ∧
      load kennelText = .ok loaded ∧
      loaded.AssembledFrom frame (schemasOf document) (sectionOf document "paths") ∧
      loaded.table.names = ["Odd", "Pet"] ∧
      loaded.operations.map Operation.operationId = ["list"] ∧
      loaded.log.entries.map Diagnostic.subject = [some "Odd", some "/odd"] := by
  have hdocument : ∃ document ∈ (Yaml.parse? kennelText).bind Json.object?,
      declaresVersion document ∧ StaysMapping document ∧ HasSections document ∧
        (frame? document).isSome := by decide +kernel
  have hnames : (load kennelText).toOption.map (fun loaded => (loaded.table.names,
      loaded.operations.map Operation.operationId,
      loaded.log.entries.map Diagnostic.subject)) =
        some (["Odd", "Pet"], ["list"], [some "Odd", some "/odd"]) := by decide +kernel
  obtain ⟨document, hmem, hversion, hstays, hsections, hframe⟩ := hdocument
  obtain ⟨value, hparse, hobject⟩ := Option.bind_eq_some_iff.1 hmem
  obtain ⟨frame, hframe⟩ := Option.isSome_iff_exists.1 hframe
  cases value with
  | object fields =>
      obtain rfl := Option.some.inj hobject
      obtain ⟨loaded, hload, hassembled, _⟩ :=
        (load_assembled hparse hversion hstays hsections).2 frame hframe
      rw [hload] at hnames
      obtain ⟨htable, hoperations, hlog⟩ : loaded.table.names = ["Odd", "Pet"] ∧
          loaded.operations.map Operation.operationId = ["list"] ∧
          loaded.log.entries.map Diagnostic.subject = [some "Odd", some "/odd"] := by
        simpa [Except.toOption] using hnames
      exact ⟨fields, frame, loaded, ⟨hparse, hversion, hstays, hsections, hframe⟩, hload,
        hassembled, htable, hoperations, hlog⟩
  | null | bool | number | string | array => cases hobject

end SchemaGraph.Document
