import SchemaGraph.Json.Equality
import SchemaGraph.Proofs.Document.Sections

/-!
# Flags on parameters

A flag for nullability belongs to a schema, but the pass that settles flags visits objects of every
meaning. Read `load_flagged_parameter` first: a flag on a parameter with a type in place turns its
type into a list of types. A parameter with such a type cannot be read, so neither can the path item
that it belongs to, and all operations of this path item are lost. The rest of the document is
loaded as it is without the flag.
-/

namespace SchemaGraph.Document

open Keyed (AgreeOff)

variable {fields : Keyed Json} {key type : String} {value : Json}

/-- A type with `null` as another one. -/
def widened (type : String) : Json :=
  .array [.string type, .string "null"]

/-- Set the flag of an object. -/
def flagged : Json → Json :=
  onObject fun fields => Keyed.put fields "x-nullable" (.bool true)

section Types

/-- Taking a flag leaves the other fields. -/
theorem get?_takeFlag (h : Keyed.Distinct fields) {name : String} (hne : name ≠ key) :
    Keyed.get? (takeFlag fields key).2 name = Keyed.get? fields name := by
  unfold takeFlag
  split
  · exact (h.get?_swapOut key name).trans (if_neg hne)
  · rfl

theorem distinct_takeFlag (h : Keyed.Distinct fields) (key : String) :
    Keyed.Distinct (takeFlag fields key).2 := by
  unfold takeFlag
  split
  · exact h.swapOut key
  · exact h

/-- A field that is there is not added. -/
theorem get?_putIfMissing_of_some (h : Keyed.get? fields "type" = some value) (added : Json) :
    Keyed.get? (putIfMissing fields key added) "type" = some value := by
  unfold putIfMissing
  split
  · exact h
  · next hmissing =>
      have hne : "type" ≠ key := by
        rintro rfl
        exact hmissing (by rw [Keyed.has, h]; rfl)
      rw [Keyed.get?_put, if_neg hne, h]

/-- A constant does not replace a type. -/
theorem get?_type_constFields (hfields : Keyed.Distinct fields)
    (h : Keyed.get? fields "type" = some value) :
    Keyed.get? (constFields fields) "type" = some value := by
  have hrest : Keyed.get? (Keyed.swapOut fields "const") "type" = some value := by
    rw [hfields.get?_swapOut, if_neg (by decide), h]
  unfold constFields
  split
  · exact h
  · refine get?_putIfMissing_of_some ?_ _
    split
    · exact get?_putIfMissing_of_some hrest _
    · exact hrest

/-- An encoding does not replace a type. -/
theorem get?_type_binaryFields (h : Keyed.get? fields "type" = some value) :
    Keyed.get? (binaryFields fields) "type" = some value := by
  unfold binaryFields
  split
  · refine get?_putIfMissing_of_some ?_ _
    rw [Keyed.get?_put, if_neg (by decide), h]
  · exact h

/-- The type is widened in an object with the flag. -/
theorem widenedType?_flagged (hfields : Keyed.Distinct fields)
    (htype : Keyed.get? fields "type" = some (.string type)) (hnull : type ≠ "null")
    (hflag : Keyed.get? fields "x-nullable" = some (.bool true)) :
    flagSet fields ∧ widenedType? fields = some (widened type) := by
  have hplain := distinct_takeFlag hfields "nullable"
  constructor
  · rw [flagSet, Bool.or_eq_true]
    refine .inr ?_
    rw [takeFlag, get?_takeFlag hfields (by decide), hflag]
    rfl
  · rw [widenedType?, withoutFlags, get?_takeFlag hplain (by decide),
      get?_takeFlag hfields (by decide), htype]
    simp [typeOrNull?, hnull, widened]

/-- Texts and lists of texts are visited without a change. -/
theorem get?_type_mapObjectsFields {step : Keyed Json → Json}
    (h : Keyed.get? fields "type" = some (widened type)) :
    Keyed.get? (mapObjectsFields step fields) "type" = some (widened type) := by
  rw [get?_mapObjectsFields step fields (by decide), h]
  rfl

/-- What stands in an object with the flag before flags are settled. -/
theorem get?_visitedFields_flagged (hfields : Keyed.Distinct fields)
    (htype : Keyed.get? fields "type" = some (.string type)) :
    let visited := visitedFields (Keyed.put fields "x-nullable" (.bool true))
    Keyed.Distinct visited ∧ Keyed.get? visited "type" = some (.string type) ∧
      Keyed.get? visited "x-nullable" = some (.bool true) := by
  have hput := keepsFields_normalizePayloadFields (hfields.put "x-nullable" (.bool true))
  refine ⟨(keepsFields_mapObjectsFields settleNullable hput.distinct).distinct, ?type, ?flag⟩
  case type =>
    rw [visitedFields, get?_mapObjectsFields _ _ (by decide),
      get?_normalizePayloadFields _ (by decide), Keyed.get?_put, if_neg (by decide), htype]
    rfl
  case flag =>
    rw [visitedFields, get?_mapObjectsFields _ _ (by decide),
      get?_normalizePayloadFields _ (by decide), Keyed.get?_put, if_pos rfl]
    rfl

/-- An object with a type and the flag stays an object, with the type widened. -/
theorem settle_flagged (hfields : Keyed.Distinct fields)
    (htype : Keyed.get? fields "type" = some (.string type)) (hnull : type ≠ "null") :
    ∃ settled, settle (flagged (.object fields)) = .object settled ∧
      Keyed.get? settled "type" = some (widened type) ∧
      Keyed.get? settled "$ref" = (Keyed.get? fields "$ref").map settle := by
  obtain ⟨hvisited, hvisitedType, hvisitedFlag⟩ := get?_visitedFields_flagged hfields htype
  obtain ⟨hset, hwidened⟩ := widenedType?_flagged hvisited hvisitedType hnull hvisitedFlag
  have hstays : StaysMapping (Keyed.put fields "x-nullable" (.bool true)) := by
    rw [StaysMapping, becomesChoice, hwidened, Option.isNone_some, Bool.and_false]
  refine ⟨_, hstays.settle_eq, ?type, ?reference⟩
  case type =>
    have hnullable : Keyed.get? (nullableFields (visitedFields
        (Keyed.put fields "x-nullable" (.bool true)))) "type" = some (widened type) := by
      simp only [nullableFields, hset, hwidened, Keyed.get?_put, if_true]
    have hdistinct := (keepsFields_nullableFields hvisited).distinct
    have hconst := get?_type_constFields
      (keepsFields_mapObjectsFields settleConst hdistinct).distinct
      (get?_type_mapObjectsFields hnullable)
    exact get?_type_binaryFields (get?_type_mapObjectsFields hconst)
  case reference =>
    rw [get?_settledFields (hfields.put _ _) (by decide), Keyed.get?_put, if_neg (by decide)]

end Types

/-- A parameter with a list of types cannot be read. -/
theorem orReference?_of_widened (htype : Keyed.get? fields "type" = some (widened type))
    (hreference : Keyed.get? fields "$ref" = none) :
    orReference? ParameterObject.read? (.object fields) = none := by
  have hparameter : ParameterObject.read? (.object fields) = none := by
    have hlisted : optionalText? fields "type" = none := by rw [optionalText?, htype]; rfl
    simp [ParameterObject.read?, fieldsOf?, hlisted]
  have hnamed : referenceText? (.object fields) = none := by
    simp [referenceText?, fieldsOf?, text?, hreference]
  rw [orReference?, hnamed, hparameter]
  rfl

/-- The fields hold the parameter at a position of their list of parameters. -/
def HoldsParameter (fields : Keyed Json) (index : Nat) (parameter : Keyed Json) : Prop :=
  ∃ items, Keyed.get? fields "parameters" = some (.array items) ∧
    items[index]? = some (.object parameter)

/-- Change the items of a list; other values stay as they are. -/
def onArray (change : List Json → List Json) : Json → Json
  | .array items => .array (change items)
  | value => value

/-- Set the flag of the parameter at a position. -/
def flagParameter (index : Nat) (fields : Keyed Json) : Keyed Json :=
  Keyed.modify fields "parameters" (onArray fun items => items.modify index flagged)

/-- A parameter with a type in place is no reference. The type is not `null`, which admits `null`
with a flag and without one. -/
structure TypedInPlace (parameter : Keyed Json) (type : String) : Prop where
  type_eq : Keyed.get? parameter "type" = some (.string type)
  notNull : type ≠ "null"
  noReference : Keyed.get? parameter "$ref" = none

/-- Where a parameter of a path item stands: among those that all operations share, or among those
of the operation under a field. -/
inductive ParameterPlace where
  | shared (index : Nat)
  | own (field : String) (index : Nat)

namespace ParameterPlace

/-- Set the flag of the parameter in this place of a path item. -/
def flag : ParameterPlace → Keyed Json → Keyed Json
  | .shared index, item => flagParameter index item
  | .own field index, item => Keyed.modify item field (onObject (flagParameter index))

/-- The path item holds the parameter in this place. What the parameter stands in is not put into a
choice. -/
inductive Holds (item parameter : Keyed Json) : ParameterPlace → Prop where
  | shared {index : Nat} (hstays : StaysMapping item)
      (hparameter : HoldsParameter item index parameter) : Holds item parameter (.shared index)
  | own {field : String} {index : Nat} {operation : Keyed Json} (hstays : StaysMapping item)
      (hfield : field ∈ methods.map Prod.fst)
      (hoperation : Keyed.get? item field = some (.object operation))
      (hoperationStays : StaysMapping operation)
      (hparameter : HoldsParameter operation index parameter) :
      Holds item parameter (.own field index)

end ParameterPlace

section Items

variable {item parameter : Keyed Json} {index : Nat}

/-- A mapping that stays one does so with a flag at one of its parameters. -/
theorem settle_flagParameter (hstays : StaysMapping fields) (hfields : Keyed.Distinct fields) :
    settle (.object (flagParameter index fields)) =
      .object (settledFields (flagParameter index fields)) :=
  (hstays.modify hfields (by decide) _).settle_eq

/-- Parameters cannot be read when one of them has a flag. -/
theorem parts?_flagParameter (hfields : Json.KeysDistinct (.object fields))
    (hparameter : HoldsParameter fields index parameter) (htyped : TypedInPlace parameter type) :
    parts? (orReference? ParameterObject.read?) (settledFields (flagParameter index fields))
      "parameters" = none := by
  obtain ⟨items, hitems, hindex⟩ := hparameter
  have hdistinct : Keyed.Distinct parameter := by
    cases hfields.of_get? hitems with
    | array hall => exact (hall _ (List.mem_of_getElem? hindex)).distinct
  obtain ⟨settled, hsettled, hwidened, hreference⟩ :=
    settle_flagged hdistinct htyped.type_eq htyped.notNull
  rw [htyped.noReference, Option.map_none] at hreference
  have hlist : Keyed.get? (settledFields (flagParameter index fields)) "parameters" =
      some (.array ((items.modify index flagged).map settle)) := by
    have hkey : "parameters" ∉ passKeys := by decide
    rw [flagParameter, get?_settledFields (hfields.distinct.modify _ _) hkey, Keyed.get?_modify,
      if_pos rfl, hitems, Option.map_some, Option.map_some, onArray, settle_array]
  have hmem : flagged (.object parameter) ∈ items.modify index flagged := by
    refine List.mem_of_getElem? (i := index) ?_
    rw [List.getElem?_modify_eq, hindex]
    rfl
  rw [parts?, hlist]
  exact allPresent_eq_none (List.mem_map.2 ⟨_, List.mem_map_of_mem hmem,
    hsettled ▸ orReference?_of_widened hwidened hreference⟩)

/-- An operation cannot be read when one of its parameters has a flag. -/
theorem OperationObject.read?_flagParameter (hfields : Json.KeysDistinct (.object fields))
    (hstays : StaysMapping fields) (hparameter : HoldsParameter fields index parameter)
    (htyped : TypedInPlace parameter type) :
    read? (settle (.object (flagParameter index fields))) = none := by
  rw [settle_flagParameter hstays hfields.distinct]
  simp [read?, fieldsOf?, parts?_flagParameter hfields hparameter htyped]

/-- A path item cannot be read when one of its operations cannot be read. -/
theorem PathItem.read?_eq_none {field : String} {operation : Keyed Json}
    (hfield : field ∈ methods.map Prod.fst)
    (hoperation : Keyed.get? fields field = some (.object operation))
    (hunread : OperationObject.read? (.object operation) = none) :
    read? (.object fields) = none := by
  obtain ⟨⟨name, method⟩, hmethod, rfl⟩ := List.mem_map.1 hfield
  have hmissing : readMethod? fields name method = none := by
    rw [readMethod?, optionalPart?_of_get? hoperation, hunread]
    rfl
  refine Option.eq_none_iff_forall_ne_some.2 fun item hread => ?_
  simp only [read?, fieldsOf?, bind, Option.bind_some, Option.bind_eq_some_iff] at hread
  obtain ⟨_, -, operations, hoperations, -⟩ := hread
  cases hoperations.symm.trans
    (allPresent_eq_none (List.mem_map.2 ⟨(name, method), hmethod, hmissing⟩))

/-- A path item cannot be read when one of its parameters has a flag, be it a parameter of all
operations or of one of them. -/
theorem PathItem.read?_flag {place : ParameterPlace} (hitem : Json.KeysDistinct (.object item))
    (hplace : place.Holds item parameter) (htyped : TypedInPlace parameter type) :
    read? (settle (.object (place.flag item))) = none := by
  cases hplace with
  | shared hstays hparameter =>
      rw [ParameterPlace.flag, settle_flagParameter hstays hitem.distinct]
      simp [read?, fieldsOf?, parts?_flagParameter hitem hparameter htyped]
  | @own field index operation hstays hfield hoperation hoperationStays hparameter =>
      have hkeys : ∀ field ∈ methods.map Prod.fst, field ∉ settleKeys ∧ field ∉ passKeys := by
        decide
      obtain ⟨hsettle, hpass⟩ := hkeys field hfield
      have hoperationDistinct := hitem.of_get? hoperation
      have hunread := OperationObject.read?_flagParameter hoperationDistinct hoperationStays
        hparameter htyped
      rw [settle_flagParameter hoperationStays hoperationDistinct.distinct] at hunread
      have hsettled : Keyed.get? (settledFields (Keyed.modify item field
          (onObject (flagParameter index)))) field =
            some (.object (settledFields (flagParameter index operation))) := by
        rw [get?_settledFields (hitem.distinct.modify _ _) hpass, Keyed.get?_modify, if_pos rfl,
          hoperation, Option.map_some, onObject, Option.map_some,
          settle_flagParameter hoperationStays hoperationDistinct.distinct]
      rw [ParameterPlace.flag, (hstays.modify hitem.distinct hsettle _).settle_eq]
      exact PathItem.read?_eq_none hfield hsettled hunread

end Items

section Documents

variable {document paths item parameter : Keyed Json} {root : Root} {loaded : Loaded}
  {path text : String}

/-- Other path items do not matter for the rest of a document. -/
theorem Root.read?_withPaths {other : Keyed Json} (hread : Root.read? fields = some root)
    (hagree : AgreeOff ["paths"] fields other)
    (hpaths : namedParts? some other "paths" = some paths) :
    namedParts? some fields "paths" = some root.paths ∧
      Root.read? other = some { root with paths := paths } := by
  simp only [Root.read?, bind, Option.bind_eq_some_iff, pure, Option.some.injEq] at hread
  obtain ⟨openapi, hopenapi, swagger, hswagger, address, haddress, title, htitle, components,
    hcomponents, definitions, hdefinitions, parameters, hparameters, consumes, hconsumes, before,
    hbefore, rfl⟩ := hread
  refine ⟨hbefore, ?_⟩
  have hkey {key : String} (hne : key ∉ ["paths"]) :
      optionalText? other key = optionalText? fields key ∧
        optionalPart? readTitle? other key = optionalPart? readTitle? fields key ∧
        optionalPart? Components.read? other key = optionalPart? Components.read? fields key ∧
        namedParts? some other key = namedParts? some fields key ∧
        namedParts? ParameterObject.read? other key =
          namedParts? ParameterObject.read? fields key ∧
        parts? Json.string? other key = parts? Json.string? fields key := by
    simp only [optionalText?, optionalPart?, optionalValue, namedParts?, parts?, hagree key hne,
      and_self]
  simp only [Root.read?, hkey (show "openapi" ∉ _ by decide), hkey (show "swagger" ∉ _ by decide),
    hkey (show "$self" ∉ _ by decide), hkey (show "info" ∉ _ by decide),
    hkey (show "components" ∉ _ by decide), hkey (show "definitions" ∉ _ by decide),
    hkey (show "parameters" ∉ _ by decide), hkey (show "consumes" ∉ _ by decide), hopenapi,
    hswagger, haddress, htitle, hcomponents, hdefinitions, hparameters, hconsumes, hpaths, bind,
    Option.bind_some, pure]

/-- A document that is loaded still is with other path items, and the rest of it stays the same. -/
theorem ofValue_withPaths (hdistinct : Keyed.Distinct document)
    (hload : ofValue (.object document) = .ok loaded)
    (hpaths : Keyed.get? document "paths" = some (.object paths)) (hinert : IsInert paths) :
    ∃ root, Root.read? (normalDocument document) = some root ∧
      root.paths = mapNamed paths settleEntry ∧ loaded = ofRoot root ∧ ∀ other, IsInert other →
        ofValue (.object (Keyed.put document "paths" (.object other))) =
          .ok (ofRoot { root with paths := mapNamed other settleEntry }) := by
  have hread {document paths : Keyed Json} (hdistinct : Keyed.Distinct document)
      (hpaths : Keyed.get? document "paths" = some (.object paths)) (hinert : IsInert paths) :
      namedParts? some (normalDocument document) "paths" = some (mapNamed paths settleEntry) := by
    refine namedParts?_some ?_
    rw [get?_normalDocument hdistinct (by decide), plainDocument, Keyed.get?_modify,
      if_neg (by decide), Keyed.get?_modify, if_neg (by decide), hpaths, Option.map_some,
      hinert.settle_eq]
  obtain ⟨hchoice, root, hroot, hversion, rfl⟩ := ofValue_eq_ok_iff.1 hload
  have hplain := hread hdistinct hpaths hinert
  have hothers (other : Keyed Json) (hother : IsInert other) :=
    Root.read?_withPaths hroot
      (alikeOff_put hdistinct (show "paths" ∉ _ by decide) (.object other)).2
      (hread (hdistinct.put _ _) ((Keyed.get?_put _ _ _ _).trans (if_pos rfl)) hother)
  refine ⟨root, hroot, ?_, rfl, fun other hother =>
    ofValue_eq_ok_iff.2 ⟨?_, _, (hothers other hother).2, hversion, rfl⟩⟩
  · exact Option.some.inj ((hothers paths hinert).1.symm.trans hplain)
  · rw [← (alikeOff_put hdistinct (show "paths" ∉ _ by decide) (.object other)).1]
    exact hchoice

/-- What comes of the path item at a path is lost: none of its operations is left, and its reports
give way to the one that it cannot be read. Everything else stays the same. -/
structure Loaded.LosesPath (loaded changed : Loaded) (path : String)
    (lost : Reported (List Operation)) : Prop where
  address : changed.address = loaded.address
  title : changed.title = loaded.title
  table : changed.table = loaded.table
  operations : changed.operations =
    loaded.operations.filter fun operation => operation.path ≠ path
  log : ∃ before after : List Report,
    loaded.log = Log.empty.record (before ++ lost.reports ++ after) ∧
    changed.log = Log.empty.record
      (before ++ [⟨some path, .unreadablePathItem "unexpected structure"⟩] ++ after)

/-- Nothing is left out of the operations of other path items. -/
theorem filter_pathOperations (root : Root) (h : path ∉ Keyed.keys paths) :
    (root.pathOperations paths).value.filter (fun operation => operation.path ≠ path) =
      (root.pathOperations paths).value := by
  refine List.filter_eq_self.2 fun operation hmem => decide_eq_true ?_
  rintro rfl
  exact h (root.path_of_mem_pathOperations hmem)

/-- A path item that cannot be read is lost. -/
theorem losesPath_ofRoot {before after : Keyed Json} {raw unread : Json}
    (hpath : ¬ "x-".toList.isPrefixOf path.toList) (hbefore : path ∉ Keyed.keys before)
    (hafter : path ∉ Keyed.keys after) (hroot : root.paths = before ++ (path, raw) :: after)
    (hunread : PathItem.read? unread = none) :
    (ofRoot root).LosesPath (ofRoot { root with paths := before ++ (path, unread) :: after }) path
      (root.pathOperations [(path, raw)]) := by
  have hsplit (raw : Json) := root.pathOperations_append before ((path, raw) :: after)
  simp only [root.pathOperations_cons (path, _) after] at hsplit
  have hlost : root.pathOperations [(path, unread)] =
      ⟨[], [⟨some path, .unreadablePathItem "unexpected structure"⟩]⟩ := by
    obtain ⟨item, hitem, -⟩ | ⟨-, heq⟩ := root.pathOperations_cases hpath unread
    · rw [hunread] at hitem
      cases hitem
    · exact heq
  have hown : (root.pathOperations [(path, raw)]).value.filter
      (fun operation => operation.path ≠ path) = [] := by
    refine List.filter_eq_nil_iff.2 fun operation hmem => ?_
    have hkey := root.path_of_mem_pathOperations hmem
    simpa [Keyed.keys] using hkey
  have hoperations : root.operations = root.pathOperations (before ++ (path, raw) :: after) :=
    congrArg root.pathOperations hroot
  have hshared (paths : Keyed Json) : Root.SameShared { root with paths := paths } root :=
    ⟨rfl, rfl, rfl, rfl, rfl⟩
  have hchanged := (hshared (before ++ (path, unread) :: after)).pathOperations
    (before ++ (path, unread) :: after)
  refine ⟨rfl, rfl, rfl, ?operations,
    (convertTable root.address root.schemas).reports ++ (root.pathOperations before).reports,
    (root.pathOperations after).reports, ?log, ?changedLog⟩
  case operations =>
    show (Root.pathOperations _ _).value = root.operations.value.filter _
    rw [hchanged, hoperations, hsplit, hsplit, hlost, List.filter_append, List.filter_append,
      filter_pathOperations root hbefore, filter_pathOperations root hafter, hown]
  case log =>
    show (Log.empty.record _).record root.operations.reports = _
    rw [hoperations, hsplit, ← Log.record_append, ← List.append_assoc, ← List.append_assoc]
  case changedLog =>
    show (Log.empty.record _).record (Root.pathOperations _ _).reports = _
    rw [hchanged, hsplit, hlost, ← Log.record_append, ← List.append_assoc, ← List.append_assoc]
    rfl

/-- A path under which a path item is read and settled: it is neither an extension nor a keyword for
a pass. -/
structure IsPath (path : String) : Prop where
  noExtension : ¬ "x-".toList.isPrefixOf path.toList
  noData : path ∉ dataKeys
  noPayload : path ∉ payloadKeys

theorem settleEntry_path (h : IsPath path) (value : Json) :
    settleEntry path value = settle value := by
  simp [settleEntry, visitEntry, plainEntry, h.noData, h.noPayload, settle]

/-- Another object in the place of one makes no keyword. -/
theorem IsInert.put_object {entries part other : Keyed Json} (h : IsInert entries)
    (hentry : Keyed.get? entries key = some (.object part)) :
    IsInert (Keyed.put entries key (.object other)) := by
  have hkeeps (name : String) :
      (Keyed.get? (Keyed.put entries key (.object other)) name).bind Json.string? =
          (Keyed.get? entries name).bind Json.string? ∧
        (Keyed.get? (Keyed.put entries key (.object other)) name).bind Json.bool? =
          (Keyed.get? entries name).bind Json.bool? := by
    rw [Keyed.get?_put]
    split
    · next hname =>
        rw [hname, hentry]
        exact ⟨rfl, rfl⟩
    · exact ⟨rfl, rfl⟩
  refine ⟨?flag, ?const, (hkeeps _).1.trans h.noEncoding, (hkeeps _).1.trans h.noMedia⟩
  case flag =>
    have hflag := h.noFlag
    unfold holdsFlag at hflag ⊢
    simpa only [(hkeeps _).2] using hflag
  case const =>
    have hne : "const" ≠ key := by
      rintro rfl
      rw [h.noConst] at hentry
      cases hentry
    rw [Keyed.get?_put, if_neg hne, h.noConst]

/-- The document with a flag at a parameter of the path item at a path. -/
def flaggedDocument (document paths : Keyed Json) (path : String) (item : Keyed Json)
    (place : ParameterPlace) : Keyed Json :=
  Keyed.put document "paths" (.object (Keyed.put paths path (.object (place.flag item))))

/-- A flag at a parameter with a type in place loses what comes of the path item, whether the
parameter belongs to a single operation or to all of them. -/
theorem load_flagged_parameter {place : ParameterPlace} {flaggedText : String}
    (hparse : Yaml.parse? text = some (.object document)) (hload : load text = .ok loaded)
    (hpaths : Keyed.get? document "paths" = some (.object paths)) (hinert : IsInert paths)
    (hpath : IsPath path) (hitem : Keyed.get? paths path = some (.object item))
    (hplace : place.Holds item parameter) (htyped : TypedInPlace parameter type)
    (hflagged : Yaml.parse? flaggedText =
      some (.object (flaggedDocument document paths path item place))) :
    ∃ root changed, Root.read? (normalDocument document) = some root ∧
      load flaggedText = .ok changed ∧
      loaded.LosesPath changed path (root.pathOperations [(path, settle (.object item))]) := by
  have hdistinct := Yaml.keysDistinct_of_parse? hparse
  have hpathsDistinct := hdistinct.of_get? hpaths
  rw [load, hparse] at hload
  obtain ⟨root, hread, hroot, rfl, hothers⟩ :=
    ofValue_withPaths hdistinct.distinct hload hpaths hinert
  refine ⟨root, _, hread, by rw [load, hflagged]; exact hothers _ (hinert.put_object hitem), ?_⟩
  have hunread := PathItem.read?_flag (hpathsDistinct.of_get? hitem) hplace htyped
  obtain ⟨before, after, rfl, hbefore, hafter⟩ := hpathsDistinct.distinct.split_of_get? hitem
  have hsplit (raw : Json) : mapNamed (before ++ (path, raw) :: after) settleEntry =
      mapNamed before settleEntry ++ (path, settle raw) :: mapNamed after settleEntry := by
    simp only [mapNamed, List.map_append, List.map_cons, settleEntry_path hpath]
  rw [hsplit] at hroot
  rw [Keyed.put_split hbefore, hsplit]
  rw [← keys_mapNamed _ settleEntry] at hbefore hafter
  exact losesPath_ofRoot hpath.noExtension hbefore hafter hroot hunread

end Documents

/-- A parameter of an operation that lists birds. -/
def birdParameter : Keyed Json :=
  [("name", .string "limit"), ("in", .string "query"), ("type", .string "integer")]

/-- The operation that lists birds. -/
def birdListing : Keyed Json :=
  [("operationId", .string "list"), ("parameters", .array [.object birdParameter])]

/-- A path item with operations that list and add birds. -/
def birdItem : Keyed Json :=
  [("get", .object birdListing), ("post", .object [("operationId", .string "add")])]

/-- A document with the path item. -/
def birdDocument : Keyed Json :=
  [("swagger", .string "2.0"), ("paths", .object [("/birds", .object birdItem)])]

/-- The text of the document, with lines that follow those of the parameter. -/
def birdText (lines : List String) : String :=
  "\n".intercalate
    (["swagger: '2.0'", "paths:", "  /birds:", "    get:", "      operationId: list",
      "      parameters:", "      - name: limit", "        in: query", "        type: integer"] ++
      lines ++ ["    post:", "      operationId: add"])

/-- With a flag at the parameter of one operation, both operations are lost. -/
theorem birds_flagged_parameter :
    ∃ loaded changed lost, load (birdText []) = .ok loaded ∧
      load (birdText ["        x-nullable: true"]) = .ok changed ∧
      loaded.LosesPath changed "/birds" lost ∧
      loaded.operations.map Operation.operationId = ["list", "add"] ∧ changed.operations = [] := by
  have hparse : Yaml.parse? (birdText []) = some (.object birdDocument) := by decide +kernel
  have hflagged : Yaml.parse? (birdText ["        x-nullable: true"]) =
      some (.object (flaggedDocument birdDocument [("/birds", .object birdItem)] "/birds" birdItem
        (.own "get" 0))) := by decide +kernel
  obtain ⟨loaded, hload, hoperations⟩ : ∃ loaded, load (birdText []) = .ok loaded ∧
      loaded.operations.map (fun operation => (operation.path, operation.operationId)) =
        [("/birds", "list"), ("/birds", "add")] := by
    rw [load, hparse]
    exact ⟨_, rfl, rfl⟩
  have hplace : ParameterPlace.Holds birdItem birdParameter (.own "get" 0) :=
    .own (by decide) (by decide) rfl (by decide) ⟨_, rfl, rfl⟩
  obtain ⟨root, changed, -, hchanged, hloses⟩ := load_flagged_parameter hparse hload rfl
    (by decide) ⟨by decide, by decide, by decide⟩ rfl hplace ⟨rfl, by decide, rfl⟩ hflagged
  refine ⟨loaded, changed, _, hload, hchanged, hloses, ?names, ?lost⟩
  case names => simpa [Function.comp_def] using congrArg (List.map Prod.snd) hoperations
  case lost =>
    have hpaths : loaded.operations.map Operation.path = ["/birds", "/birds"] := by
      simpa [Function.comp_def] using congrArg (List.map Prod.fst) hoperations
    rw [hloses.operations, List.filter_eq_nil_iff]
    intro operation hmem
    have hpath := List.mem_map_of_mem (f := Operation.path) hmem
    rw [hpaths] at hpath
    simpa using hpath

end SchemaGraph.Document
