import SchemaGraph.Document.Operations
import SchemaGraph.Proofs.Reports

/-!
# Operations path by path

What a path item gives depends on the parts of a document that its operations share, and on nothing
else (`Root.SameShared`): neither on named schemas nor on other path items. So the operations of a
document are those of its path items one after the other (`Root.value_pathOperations`). A path item
that can be read has an operation for each of its methods, and one that cannot is reported and has
none (`Root.pathOperations_cases`).
-/

namespace SchemaGraph.Document.Root

/-- Two documents share among their operations the same reusable parts, media types and address. -/
structure SameShared (root other : Root) : Prop where
  address : root.address = other.address
  reusableParameters : root.components.parameters = other.components.parameters
  requestBodies : root.components.requestBodies = other.components.requestBodies
  parameters : root.parameters = other.parameters
  consumes : root.consumes = other.consumes

namespace SameShared

variable {root other : Root} (h : root.SameShared other) (subject : String)

include h

theorem localize (reference : String) : root.localize reference = other.localize reference := by
  rw [Root.localize, Root.localize, h.address]

theorem parameterAt? (pointer : String) :
    root.parameterAt? pointer = other.parameterAt? pointer := by
  rw [Root.parameterAt?, Root.parameterAt?, rootParameter?, rootParameter?, h.parameters,
    h.reusableParameters]

/-- References lead to the same parameters. -/
theorem followParameter (unseen : List String) (pointer : String) :
    root.followParameter unseen pointer = other.followParameter unseen pointer := by
  induction unseen, pointer using followParameter.induct root with
  | case1 unseen pointer hmem parameter hfound =>
      rw [Root.followParameter, dif_pos hmem, hfound, Root.followParameter, dif_pos hmem,
        ← h.parameterAt?, hfound]
  | case2 unseen pointer hmem next hfound ih =>
      rw [Root.followParameter, dif_pos hmem, hfound, Root.followParameter, dif_pos hmem,
        ← h.parameterAt?, hfound]
      exact ih.trans (by rw [h.localize])
  | case3 unseen pointer hmem hfound =>
      rw [Root.followParameter, dif_pos hmem, hfound, Root.followParameter, dif_pos hmem,
        ← h.parameterAt?, hfound]
  | case4 unseen pointer hmem =>
      rw [Root.followParameter, dif_neg hmem, Root.followParameter, dif_neg hmem]

theorem resolveParameter (parameter : OrReference ParameterObject) :
    root.resolveParameter subject parameter = other.resolveParameter subject parameter := by
  have hpointers : root.parameterPointers = other.parameterPointers := by
    simp only [parameterPointers, h.reusableParameters, h.localize]
  have hfound : root.resolveParameter? parameter = other.resolveParameter? parameter := by
    cases parameter with
    | value parameter => rfl
    | reference reference =>
        simp only [resolveParameter?, h.localize, hpointers, h.followParameter]
  rw [Root.resolveParameter, Root.resolveParameter, hfound]

theorem resolveParameters (parameters : List (OrReference ParameterObject)) :
    root.resolveParameters subject parameters = other.resolveParameters subject parameters := by
  induction parameters with
  | nil => rfl
  | cons parameter rest ih =>
      rw [Root.resolveParameters, Root.resolveParameters, h.resolveParameter, ih]

theorem convertParameter (parameter : ParameterObject) :
    root.convertParameter subject parameter = other.convertParameter subject parameter := by
  rw [Root.convertParameter, Root.convertParameter, h.address]

theorem sortParameters (parameters : List ParameterObject) :
    root.sortParameters subject parameters = other.sortParameters subject parameters := by
  induction parameters with
  | nil => rfl
  | cons parameter rest ih =>
      simp only [Root.sortParameters, ih, h.convertParameter]

theorem requestBody (body : OrReference BodyObject) :
    root.requestBody subject body = other.requestBody subject body := by
  simp only [Root.requestBody, selectBody, h.localize, h.requestBodies, h.address]

theorem formObject (form : List ParameterObject) (object : ObjectShape) :
    root.formObject subject form object = other.formObject subject form object := by
  induction form generalizing object with
  | nil => rfl
  | cons parameter rest ih => simp only [Root.formObject, h.convertParameter, ih]

theorem bodyOf (operation : OperationObject) (sorted : SortedParameters) :
    root.bodyOf subject operation sorted = other.bodyOf subject operation sorted := by
  simp only [Root.bodyOf, h.consumes, h.requestBody, bodyOfParameter, h.convertParameter,
    bodyOfForm, h.formObject]

omit subject

theorem operation (path method : String) (item : PathItem) (operation : OperationObject) :
    root.operation path method item operation = other.operation path method item operation := by
  simp only [Root.operation, h.resolveParameters, h.sortParameters, h.bodyOf]

theorem itemOperations (path : String) (item : PathItem)
    (operations : List (String × OperationObject)) :
    root.itemOperations path item operations = other.itemOperations path item operations := by
  induction operations with
  | nil => rfl
  | cons entry rest ih =>
      obtain ⟨method, operation⟩ := entry
      rw [Root.itemOperations, Root.itemOperations, h.operation, ih]

/-- Path items give the same operations and reports. -/
theorem pathOperations (paths : List (String × Json)) :
    root.pathOperations paths = other.pathOperations paths := by
  induction paths with
  | nil => rfl
  | cons entry rest ih =>
      obtain ⟨path, raw⟩ := entry
      simp only [Root.pathOperations, h.itemOperations, ih]

end SameShared

variable (root : Root)

/-- A path item that can be read gives an operation for each of its methods, in their order. -/
theorem methods_itemOperations (path : String) (item : PathItem)
    (operations : List (String × OperationObject)) :
    (root.itemOperations path item operations).value.map
        (fun operation => (operation.path, operation.method)) =
      operations.map fun entry => (path, entry.1) := by
  induction operations with
  | nil => rfl
  | cons entry rest ih =>
      obtain ⟨method, operation⟩ := entry
      rw [itemOperations, Reported.value_bind, Reported.value_bind, Reported.value_pure,
        List.map_cons, List.map_cons, ih]
      rfl

/-- The path items are taken one after the other. -/
theorem pathOperations_cons (entry : String × Json) (rest : List (String × Json)) :
    root.pathOperations (entry :: rest) =
      ⟨(root.pathOperations [entry]).value ++ (root.pathOperations rest).value,
        (root.pathOperations [entry]).reports ++ (root.pathOperations rest).reports⟩ := by
  obtain ⟨path, raw⟩ := entry
  simp only [pathOperations]
  split
  · rfl
  · split
    · simp [Bind.bind, Pure.pure]
    · rfl

/-- Two lists of path items are taken one after the other. -/
theorem pathOperations_append (paths more : List (String × Json)) :
    root.pathOperations (paths ++ more) =
      ⟨(root.pathOperations paths).value ++ (root.pathOperations more).value,
        (root.pathOperations paths).reports ++ (root.pathOperations more).reports⟩ := by
  induction paths with
  | nil => rfl
  | cons entry rest ih =>
      rw [List.cons_append, pathOperations_cons, ih, pathOperations_cons root entry rest,
        List.append_assoc, List.append_assoc]

/-- The operations of a document are those of its path items. -/
theorem value_pathOperations (paths : List (String × Json)) :
    (root.pathOperations paths).value =
      paths.flatMap fun entry => (root.pathOperations [entry]).value := by
  induction paths with
  | nil => rfl
  | cons entry rest ih => rw [pathOperations_cons, ih, List.flatMap_cons]

/-- What is reported of a document's path items is what is reported of each. -/
theorem reports_pathOperations (paths : List (String × Json)) :
    (root.pathOperations paths).reports =
      paths.flatMap fun entry => (root.pathOperations [entry]).reports := by
  induction paths with
  | nil => rfl
  | cons entry rest ih => rw [pathOperations_cons, ih, List.flatMap_cons]

/-- A path item that is no extension either gives an operation for each of its methods, or cannot be
read, is reported and gives none. -/
theorem pathOperations_cases {path : String} (hpath : ¬ "x-".toList.isPrefixOf path.toList)
    (raw : Json) :
    (∃ item, PathItem.read? raw = some item ∧
      (root.pathOperations [(path, raw)]).value.map
        (fun operation => (operation.path, operation.method)) =
          item.operations.map fun entry => (path, entry.1)) ∨
    (PathItem.read? raw = none ∧ root.pathOperations [(path, raw)] =
      ⟨[], [⟨some path, .unreadablePathItem "unexpected structure"⟩]⟩) := by
  rw [pathOperations, if_neg hpath]
  cases hitem : PathItem.read? raw with
  | none => exact .inr ⟨rfl, rfl⟩
  | some item =>
      refine .inl ⟨item, rfl, ?_⟩
      rw [← root.methods_itemOperations path item item.operations]
      simp [pathOperations]

/-- An operation has the path of its path item. -/
theorem path_of_mem_pathOperations {paths : Keyed Json} {operation : Operation}
    (h : operation ∈ (root.pathOperations paths).value) : operation.path ∈ Keyed.keys paths := by
  rw [value_pathOperations] at h
  obtain ⟨⟨path, raw⟩, hentry, hmem⟩ := List.mem_flatMap.1 h
  suffices hpath : operation.path = path from hpath ▸ List.mem_map_of_mem hentry
  by_cases hextension : "x-".toList.isPrefixOf path.toList
  · rw [pathOperations, if_pos hextension] at hmem
    exact absurd hmem List.not_mem_nil
  · obtain ⟨item, -, hoperations⟩ | ⟨-, hnone⟩ := root.pathOperations_cases hextension raw
    · have hkey := List.mem_map_of_mem
        (f := fun operation : Operation => (operation.path, operation.method)) hmem
      rw [hoperations] at hkey
      obtain ⟨method, -, heq⟩ := List.mem_map.1 hkey
      exact (congrArg Prod.fst heq).symm
    · rw [hnone] at hmem
      exact absurd hmem List.not_mem_nil

end SchemaGraph.Document.Root
